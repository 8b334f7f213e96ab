import CredentialSync.Proofs.Apply.Taken
import CredentialSync.Proofs.Bridge.Runs
import CredentialSync.Proofs.Tracking.Apply
import CredentialSync.Proofs.Tracking.Relay

/-!
# Runs that keep tracking

On a ready device with a recorder that answers, the metadata tracks the records from the first merge
that succeeds on, whatever is merged, applied and written behind it. There is one exception: a write
that goes on after its transaction has ended and fails then. It has changed records without a word to
the metadata, which goes on tracking exactly if the resident keys are the same (`Call.KeepsKeys`).

`run_tracks_iff` is the lemma for one call, `merge_then_tracks_iff` the theorem for all runs.
-/

namespace CredentialSync

open Attempt Device

variable {β : Type}

namespace Call

/-- If the call fails, the same keys are resident as before. -/
def KeepsKeys {π : Type} [Processor π] (d : Device π) (c : Call β) : Prop :=
  ∀ e, (c.run d).1 = .error e → ∀ key,
    ((c.run d).2.store.vault.records.get? key).isSome = (d.store.vault.records.get? key).isSome

/-- The call merges or applies honest changes, or writes records. -/
def Exchanges : Call β → Prop
  | .merge changes => RemoteChange.AllHonest changes
  | .apply changes => RemoteChange.AllHonest changes
  | .forget => False
  | .write w => w.Plain

theorem Exchanges.plain {c : Call β} (h : c.Exchanges) : c.Plain := by
  cases c with
  | merge | apply => trivial
  | forget => exact h.elim
  | write w => exact h

/-- A call that leaves no trace when it fails keeps the resident keys. -/
theorem KeepsKeys.of_contained {π : Type} [Processor π] {d : Device π} {c : Call β}
    (hplain : c.Plain) (hroll : d.store.CanRollBack) (h : c.Contained d) : c.KeepsKeys d :=
  fun _ hfail _ => by rw [h.vault hplain hroll hfail]

end Call

namespace Device

variable {d d' : Device Recorder} {relay : ObserverId} {replacing : Bool}

/-! ## 1. Calls that succeed -/

theorem Ready.merge_tracks {remote : List RemoteChange} {summary : MergeSummary}
    (h : d.Ready (Recorder.setting relay replacing)) (hwithin : Within d.store.metadata d.store.vault)
    (hhonest : RemoteChange.AllHonest remote)
    (hmerge : (merge remote).perform d = (.ok summary, d')) : d'.Tracking := by
  obtain ⟨fs, m, hmerged⟩ := merge_ok h.quiet h.sound.vault hmerge
  exact hmerged.tracks h.processor h.sound h.pending hwithin hhonest

theorem Ready.apply_tracks {remote : List RemoteChange} {summary : ApplySummary}
    (h : d.Ready (Recorder.setting relay replacing)) (htracking : d.Tracking)
    (hhonest : RemoteChange.AllHonest remote)
    (happly : (apply remote).perform d = (.ok summary, d')) : d'.Tracking := by
  obtain ⟨cs, es, htaken⟩ := apply_ok h.quiet happly
  obtain ⟨asked, hheard, hmetadata⟩ := htaken.heard
  have hasked : asked = _ := congrArg Prod.snd hheard
  have hclosing : [Work.Event.write d.pending.writes].flatMap Work.Event.asks = [] := by
    rw [h.pending]
    rfl
  rw [(Work.Event.hear_of_loud h.processor _ []).2, List.flatMap_append, hclosing, List.append_nil,
    List.nil_append] at hasked
  unfold Tracking
  rw [hmetadata, hasked]
  exact htaken.applied.follows hhonest _ h.sound.content.complete htracking

theorem Ready.write_tracks {w : Write β} (h : d.Ready (Recorder.setting relay replacing))
    (hw : w.Plain) (htracking : d.Tracking) (hok : (d.write w).1.ending = .ok ()) :
    (d.write w).2.Tracking := by
  obtain ⟨d₁, value, cs, hready, hwrite, hsteps, hmetadata, -⟩ := h.write_ok hw hok
  rw [hwrite]
  refine hready.told_tracks hsteps ?_
  rw [hmetadata]
  exact htracking

/-- **A call that succeeds keeps the metadata tracking.** -/
theorem Ready.run_tracks {c : Call β} (h : d.Ready (Recorder.setting relay replacing))
    (hc : c.Exchanges) (htracking : d.Tracking) (hok : (c.run d).1 = .ok ()) :
    (c.run d).2.Tracking := by
  cases c with
  | merge remote =>
    rw [Call.run, perform_map] at hok ⊢
    rcases hmerge : (merge remote).perform d with ⟨e | summary, d'⟩ <;> rw [hmerge] at hok
    · cases hok
    · exact h.merge_tracks (Tracks.within htracking) hc hmerge
  | apply remote =>
    rw [Call.run, perform_map] at hok ⊢
    rcases happly : (apply remote).perform d with ⟨e | summary, d'⟩ <;> rw [happly] at hok
    · cases hok
    · exact h.apply_tracks htracking hc happly
  | forget => exact hc.elim
  | write w => exact h.write_tracks hc htracking hok

/-! ## 2. All calls -/

/-- **One call.** The metadata goes on tracking exactly if a failed call keeps the resident keys. -/
theorem Ready.run_tracks_iff {c : Call β} (h : d.Ready (Recorder.setting relay replacing))
    (hc : c.Exchanges) (htracking : d.Tracking) : (c.run d).2.Tracking ↔ c.KeepsKeys d := by
  cases hres : (c.run d).1 with
  | ok u =>
    refine iff_of_true (h.run_tracks hc htracking hres) fun e hfail => ?_
    rw [hres] at hfail
    cases hfail
  | error e =>
    obtain ⟨ds, hsteps, hmetadata⟩ := Call.fails_steps hc.plain h.quiet.canRollBack hres
    unfold Tracking
    rw [hmetadata, htracking.untold_iff hsteps h.sound.vault]
    exact ⟨fun hkeys _ _ => hkeys, fun hkeys => hkeys e hres⟩

/-- All calls of a run keep the resident keys where they are made. -/
def KeepsKeysAll (cs : List (Call β)) (d : Device Recorder) : Prop :=
  ∀ pre c post, cs = pre ++ c :: post → c.KeepsKeys (Call.runAll pre d)

/-- The metadata tracks the records throughout a run. -/
def TracksAll (cs : List (Call β)) (d : Device Recorder) : Prop :=
  ∀ pre post, cs = pre ++ post → (Call.runAll pre d).Tracking

theorem keepsKeysAll_cons {c : Call β} {cs : List (Call β)} :
    KeepsKeysAll (c :: cs) d ↔ c.KeepsKeys d ∧ KeepsKeysAll cs (c.run d).2 := by
  constructor
  · intro h
    exact ⟨h [] c cs rfl, fun pre c' post heq => h (c :: pre) c' post (by rw [heq]; rfl)⟩
  · rintro ⟨hc, hcs⟩ pre c' post heq
    cases pre with
    | nil =>
      cases heq
      exact hc
    | cons a pre =>
      cases heq
      exact hcs pre c' post rfl

theorem tracksAll_cons {c : Call β} {cs : List (Call β)} :
    TracksAll (c :: cs) d ↔ d.Tracking ∧ TracksAll cs (c.run d).2 := by
  constructor
  · intro h
    exact ⟨h [] (c :: cs) rfl, fun pre post heq => h (c :: pre) post (by rw [heq]; rfl)⟩
  · rintro ⟨hd, hcs⟩ pre post heq
    cases pre with
    | nil => exact hd
    | cons a pre =>
      cases heq
      exact hcs pre post rfl

/-- **All calls.** -/
theorem Ready.tracksAll_iff {cs : List (Call β)} (h : d.Ready (Recorder.setting relay replacing))
    (hcs : ∀ c ∈ cs, c.Exchanges) (htracking : d.Tracking) : TracksAll cs d ↔ KeepsKeysAll cs d := by
  induction cs generalizing d with
  | nil =>
    refine iff_of_true (fun pre post heq => ?_) fun pre c post heq => ?_
    · obtain ⟨rfl, -⟩ := List.append_eq_nil_iff.1 heq.symm
      exact htracking
    · cases pre <;> cases heq
  | cons c cs ih =>
    rw [tracksAll_cons, keepsKeysAll_cons]
    have hc := hcs c List.mem_cons_self
    have hiff := h.run_tracks_iff hc htracking
    have hrest := fun c' hc' => hcs c' (List.mem_cons_of_mem _ hc')
    constructor
    · rintro ⟨-, hall⟩
      have hnext := hall [] cs rfl
      exact ⟨hiff.1 hnext, (ih (h.run hc.plain) hrest hnext).1 hall⟩
    · rintro ⟨hkeeps, hall⟩
      exact ⟨htracking, (ih (h.run hc.plain) hrest (hiff.2 hkeeps)).2 hall⟩

/-- **From the first merge on the metadata tracks the records.** It does so behind the merge, and
    throughout a run of calls exactly if they all keep the resident keys. With a table they always do,
    and so they do if every write gives up when an edit has failed. -/
theorem merge_then_tracks_iff {remote : List RemoteChange} {summary : MergeSummary}
    (h : d.Ready (Recorder.setting relay d.store.replaces))
    (hwithin : Within d.store.metadata d.store.vault) (hhonest : RemoteChange.AllHonest remote)
    (hmerge : (merge remote).perform d = (.ok summary, d')) (cs : List (Call β))
    (hcs : ∀ c ∈ cs, c.Exchanges) :
    d'.Tracking ∧ (TracksAll cs d' ↔ KeepsKeysAll cs d') ∧
      (d.store.replaces = false ∨ (∀ w, .write w ∈ cs → w.GivesUp) → TracksAll cs d') := by
  have htracking := h.merge_tracks hwithin hhonest hmerge
  have hready : d'.Ready (Recorder.setting relay d.store.replaces) := by
    have hrun : ((Call.merge remote : Call β).run d).2 = d' := by
      rw [Call.run, perform_map, hmerge]
    exact hrun ▸ h.run (c := (Call.merge remote : Call β)) trivial
  have hiff := hready.tracksAll_iff hcs htracking
  refine ⟨htracking, hiff, fun hsafe => hiff.2 fun pre c post heq => ?_⟩
  have hpre : (Call.runAll pre d').Ready (Recorder.setting relay d.store.replaces) :=
    hready.runAll fun c' hc' => (hcs c' (by rw [heq]; exact List.mem_append_left _ hc')).plain
  have hmem : c ∈ cs := by
    rw [heq]
    exact List.mem_append_right _ List.mem_cons_self
  refine .of_contained (hcs c hmem).plain hpre.quiet.canRollBack ?_
  rcases hsafe with htable | hgive
  · exact Call.contained_of_not_replaces (hcs c hmem).plain (hpre.replaces.trans htable)
  · exact Call.contained_of_givesUp fun w hw => hgive w (hw ▸ hmem)

/-- A device with two records and a bridge. -/
def stockedAndLinked : Device Recorder := stocked.connect ""

theorem ready_stockedAndLinked : stockedAndLinked.Ready (Recorder.setting 0 false) where
  quiet := rfl
  replaces := rfl
  sound := (Store.Reached.seed 2 (.sample "b") (.seed 1 (.sample "a") .table)).sound
  pending := rfl
  processor := ⟨rfl, rfl⟩
  relay := rfl
  live := by decide
  closed := rfl

/-- Two entities are merged, and then one is applied and one record written. -/
theorem merge_then_tracks_stocked :
    ∃ d', (merge [.sample "a", .sample "c"]).perform stockedAndLinked =
        (.ok { matched := 1, remoteOnly := 1, localOnly := 1 }, d') ∧ d'.Tracking ∧
      TracksAll [Call.apply [.sample "d"], .write Write.stubborn] d' := by
  have hmerge : ((merge [.sample "a", .sample "c"]).perform stockedAndLinked).1.toOption =
      some { matched := 1, remoteOnly := 1, localOnly := 1 } := by decide +kernel
  have hok := ok_of_toOption hmerge
  have hcalls : ∀ c ∈ [Call.apply [.sample "d"], .write Write.stubborn], c.Exchanges := by
    intro c hc
    rcases List.mem_cons.1 hc with rfl | hc
    · exact honest_sample ["d"]
    · rw [List.mem_singleton.1 hc]
      exact Write.plain_stubborn
  obtain ⟨htracking, -, hsafe⟩ := merge_then_tracks_iff ready_stockedAndLinked
    (within_of_empty fun _ => rfl) (honest_sample ["a", "c"]) hok _ hcalls
  exact ⟨_, hok, htracking, hsafe (.inl rfl)⟩

/-! ## 3. A run that stops tracking -/

/-- A device with a database that has given out the greatest primary key, and a bridge. -/
def exhaustedAndLinked : Device Recorder := exhausted.connect ""

theorem ready_exhaustedAndLinked : exhaustedAndLinked.Ready (Recorder.setting 0 true) where
  quiet := ⟨rfl, rfl⟩
  replaces := rfl
  sound := (Store.Reached.insertRaw .greatest (.sample "top") 0 0 .database).sound
  pending := rfl
  processor := ⟨rfl, rfl⟩
  relay := rfl
  live := by decide
  closed := rfl

/-- After an empty merge the metadata tracks the record; the write fails, the record is gone, and the
    metadata still has its entry. -/
theorem stubborn_stops_tracking :
    ∃ d', (merge []).perform exhaustedAndLinked = (.ok { localOnly := 1 }, d') ∧ d'.Tracking ∧
      ((Call.write .stubborn).run d').1 = .error DatabaseFault.noTransaction.store ∧
      ¬ ((Call.write .stubborn).run d').2.Tracking := by
  have hruns : ((merge []).perform exhaustedAndLinked).1.toOption = some { localOnly := 1 } ∧
      ((Call.write .stubborn).run ((merge []).perform exhaustedAndLinked).2).1 =
        .error DatabaseFault.noTransaction.store ∧
      ((Call.write .stubborn).run
        ((merge []).perform exhaustedAndLinked).2).2.store.vault.records.get? .greatest = none ∧
      (((merge []).perform exhaustedAndLinked).2.store.vault.records.get? .greatest).isSome =
        true := by decide +kernel
  obtain ⟨hmerge, hfail, hgone, hbefore⟩ := hruns
  have hok := ok_of_toOption hmerge
  have hready : ((merge []).perform exhaustedAndLinked).2.Ready (Recorder.setting 0 true) :=
    ready_exhaustedAndLinked.run (c := (Call.merge [] : Call Unit)) trivial
  have htracking := ready_exhaustedAndLinked.merge_tracks (within_of_empty fun _ => rfl)
    (honest_sample []) hok
  refine ⟨_, hok, htracking, hfail, fun hstill => ?_⟩
  have hkeeps := (hready.run_tracks_iff (c := Call.write .stubborn) Write.plain_stubborn
    htracking).1 hstill _ hfail .greatest
  rw [hgone, hbefore] at hkeeps
  cases hkeeps

end Device

end CredentialSync
