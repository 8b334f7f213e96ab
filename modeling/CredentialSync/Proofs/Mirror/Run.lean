import CredentialSync.Proofs.Exchange.Uploads
import CredentialSync.Proofs.Mirror.Linked

/-!
# Uploads mirror the records

Whoever carries out the uploads that a processor was told of keeps a map of entities by storage key
(`ProcessorCall.mirror`). It `Copies` the records if it holds just their entities.

A device with no records at the beginning is written to, and its bridge is replaced now and then
(`Action`). Each committed write is uploaded once, change by change, and a failed write is not
(`Action.Uploads`). So the uploads go on mirroring the records, except behind a failed write that has not
left the records as they were (`Action.KeepsRecords`). Only a write that goes on after the end of its
transaction can do that.

`Linked.run_mirrors_iff` is the lemma for one action, `uploads_mirror_iff` the theorem for all runs.
-/

namespace CredentialSync

open Attempt Device

/-! ## 1. Copies made of uploads -/

namespace ProcessorCall

/-- Carries an upload out on a copy; other calls are none. -/
def upload : ProcessorCall → SortedMap StorageKey Entity → SortedMap StorageKey Entity
  | .put key e, m => m.insert key e
  | .delete key, m => m.erase key
  | .assignKey _ _, m => m
  | .ready _, m => m
  | .report _, m => m

/-- The copy that comes of some calls, beginning with an empty one. -/
def mirror (calls : List ProcessorCall) : SortedMap StorageKey Entity :=
  calls.foldl (fun m c => c.upload m) ∅

theorem mirror_append (calls calls' : List ProcessorCall) :
    mirror (calls ++ calls') = calls'.foldl (fun m c => c.upload m) (mirror calls) :=
  List.foldl_append

/-- Greetings upload nothing. -/
theorem Greets.upload {c : ProcessorCall} (h : c.Greets) (m : SortedMap StorageKey Entity) :
    c.upload m = m := by
  cases c with
  | put | delete | assignKey => exact h.elim
  | ready | report => rfl

end ProcessorCall

/-- The copy holds the entities of the records under their storage keys, and nothing else. -/
structure Copies (m : SortedMap StorageKey Entity) (v : Vault) : Prop where
  agrees : ∀ key : PrimaryKey, m.get? key.storageKey = (v.records.get? key).map Entity.ofRecord
  foreign : ∀ text : StorageKey, (∀ key : PrimaryKey, key.storageKey ≠ text) → m.get? text = none

namespace Copies

variable {m : SortedMap StorageKey Entity} {v v' : Vault} {cs : List LocalChange}

theorem empty (h : ∀ key, v.records.get? key = none) : Copies ∅ v :=
  ⟨fun key => by rw [h key]; rfl, fun _ _ => rfl⟩

/-- Setting the entity of a record. -/
theorem insert (h : Copies m v) {key : PrimaryKey} {r : Record}
    (hv : v'.records = v.records.insert key r) :
    Copies (m.insert key.storageKey (Entity.ofRecord r)) v' := by
  refine ⟨fun k => ?_, fun text htext => ?_⟩
  · rw [hv, SortedMap.get?_insert, SortedMap.get?_insert]
    by_cases hk : key = k
    · rw [if_pos hk, if_pos (congrArg _ hk)]
      rfl
    · rw [if_neg hk, if_neg fun htext => hk (PrimaryKey.storageKey_injective htext)]
      exact h.agrees k
  · rw [SortedMap.get?_insert, if_neg (htext key)]
    exact h.foreign text htext

/-- Erasing the entity of a record. -/
theorem erase (h : Copies m v) {key : PrimaryKey} (hv : v'.records = v.records.erase key) :
    Copies (m.erase key.storageKey) v' := by
  refine ⟨fun k => ?_, fun text htext => ?_⟩
  · rw [hv, SortedMap.get?_erase, SortedMap.get?_erase]
    by_cases hk : key = k
    · rw [if_pos hk, if_pos (congrArg _ hk)]
      rfl
    · rw [if_neg hk, if_neg fun htext => hk (PrimaryKey.storageKey_injective htext)]
      exact h.agrees k
  · rw [SortedMap.get?_erase, if_neg (htext key)]
    exact h.foreign text htext

/-- **One change, uploaded.** -/
theorem step (h : Copies m v) {c : LocalChange} (hstep : Vault.Step v c v') :
    Copies (c.call.upload m) v' := by
  cases hstep with
  | add | update => exact h.insert rfl
  | remove => exact h.erase rfl

/-- **Changes uploaded in order.** -/
theorem steps (h : Copies m v) (hsteps : Vault.Steps v cs v') :
    Copies ((cs.map LocalChange.call).foldl (fun m c => c.upload m) m) v' := by
  induction hsteps generalizing m with
  | nil => exact h
  | cons hc _ ih => exact ih (h.step hc)

/-- **A copy is one of other records too exactly if they are the same ones.** -/
theorem untold_iff (h : Copies m v) : Copies m v' ↔ v'.records = v.records := by
  constructor
  · intro h'
    refine SortedMap.ext_get? fun key => ?_
    have hentity := (h'.agrees key).symm.trans (h.agrees key)
    have hrecord : ∀ r s : Record, Entity.ofRecord r = Entity.ofRecord s → r = s := fun r s he => by
      rw [← Entity.record_ofRecord r, he, Entity.record_ofRecord]
    exact Option.map_injective (fun r s => hrecord r s) hentity
  · intro hv
    refine ⟨fun key => ?_, h.foreign⟩
    rw [hv]
    exact h.agrees key

end Copies

/-! ## 2. Actions -/

/-- What happens on the side of the device: a write, a new bridge in place of the former one, or a new
    processor with a new bridge. -/
inductive Action (π β : Type) where
  | write (w : Write β)
  | connect (placeholder : String)
  | restart (placeholder : String) (p : π)

variable {π : Type} [Processor π] {β : Type}

namespace Action

/-- Carries an action out. Only writes can fail. -/
def run : Action π β → Device (Overheard π) → Except SyncError Unit × Device (Overheard π)
  | .write w, d => (Call.write w).run d
  | .connect placeholder, d => (.ok (), d.connect placeholder)
  | .restart placeholder p, d =>
    (.ok (), Device.connect placeholder
      { d.disconnect with processor := ⟨p, d.processor.heard⟩ })

/-- Writes change and look at records only, and new processors track. -/
def Fair : Action π β → Prop
  | .write w => w.Plain
  | .connect _ => True
  | .restart _ p => Processor.isTracking p = true

/-- What an action tells the processors: of a committed write each change once, in order; of a failed
    write nothing; when a bridge is made, no change. -/
def Uploads (d : Device (Overheard π)) : Action π β → Prop
  | .write w =>
    (∀ value cs, (d.write w).1 = .committed value cs →
      (d.write w).2.processor.heard = d.processor.heard ++ cs.map LocalChange.call) ∧
    ∀ e, (d.write w).1.ending = .error e → (d.write w).2.processor.heard = d.processor.heard
  | .connect placeholder => ∃ c : ProcessorCall, c.Greets ∧
    (d.connect placeholder).processor.heard = d.processor.heard ++ [c]
  | .restart placeholder p => ∃ c : ProcessorCall, c.Greets ∧
    ((Action.restart placeholder p : Action π β).run d).2.processor.heard = d.processor.heard ++ [c]

/-- If the action fails, the records are as they were before. -/
def KeepsRecords (d : Device (Overheard π)) (a : Action π β) : Prop :=
  ∀ e, (a.run d).1 = .error e → (a.run d).2.store.vault.records = d.store.vault.records

/-- A property of each action of a run, where it is taken. -/
def Each (P : Device (Overheard π) → Action π β → Prop) :
    List (Action π β) → Device (Overheard π) → Prop
  | [], _ => True
  | a :: as, d => P d a ∧ Each P as (a.run d).2

end Action

namespace Device

/-- What was uploaded mirrors the records. -/
def Mirrored (d : Device (Overheard π)) : Prop :=
  Copies (ProcessorCall.mirror d.processor.heard) d.store.vault

variable {hattentive : Processor.Attentive (Overheard π)} {replacing : Bool}
  {d : Device (Overheard π)}

/-! ## 3. One action -/

/-- **A bridge that is made** tells of no change and leaves the records alone. -/
theorem connect_heard (placeholder : String) (d : Device (Overheard π)) :
    (∃ c : ProcessorCall, c.Greets ∧
      (d.connect placeholder).processor.heard = d.processor.heard ++ [c]) ∧
      (d.connect placeholder).store = d.store ∧
      ((d.connect placeholder).Mirrored ↔ d.Mirrored) := by
  obtain ⟨c, hc, hconnect⟩ := connect_eq placeholder d
  have hheard : (d.connect placeholder).processor.heard = d.processor.heard ++ [c] := by
    rw [hconnect]
    exact congrArg (fun x => x.2.heard) (Overheard.deliver_eq c d.processor)
  have hstore : (d.connect placeholder).store = d.store := by rw [hconnect]
  refine ⟨⟨c, hc, hheard⟩, hstore, ?_⟩
  unfold Mirrored
  rw [hheard, hstore, ProcessorCall.mirror_append, List.foldl_cons, hc.upload]
  rfl

/-- **A write that succeeds** is uploaded once, change by change. -/
theorem Linked.write_uploads {w : Write β} (h : d.Linked hattentive replacing) (hw : w.Plain)
    (hok : (d.write w).1.ending = .ok ()) :
    ∃ value cs, (d.write w).1 = .committed value cs ∧
      (d.write w).2.processor.heard = d.processor.heard ++ cs.map LocalChange.call ∧
      Vault.Steps d.store.vault cs (d.write w).2.store.vault ∧
      (d.write w).2.Linked hattentive replacing := by
  obtain ⟨relay, hready, honce⟩ := h.relay
  obtain ⟨d₁, value, cs, hready₁, hwrite, hsteps, -, hprocessor, hnotifier⟩ :=
    hready.write_ok hw hok
  rw [hwrite]
  refine ⟨value, cs, rfl, ?_, ?_, ?_⟩
  · show (d₁.told .device cs).processor.heard = _
    rw [hready₁.told_heard, hnotifier, honce, hprocessor, List.replicate_one, List.flatten_singleton]
  · show Vault.Steps d.store.vault cs (d₁.told .device cs).store.vault
    rw [vault_told]
    exact hsteps
  · have hlinked : d₁.Linked hattentive replacing :=
      ⟨hnotifier ▸ h.known, relay, hready₁, hnotifier ▸ honce⟩
    exact hlinked.told cs

/-- **A write that fails** is not uploaded. -/
theorem Linked.write_silent {w : Write β} (h : d.Linked hattentive replacing) (hw : w.Plain)
    {e : SyncError} (hfail : (d.write w).1.ending = .error e) :
    (d.write w).2.processor.heard = d.processor.heard ∧
      (d.write w).2.Linked hattentive replacing := by
  obtain ⟨relay, hready, honce⟩ := h.relay
  have hbatched := batched .bridge .device (w.run []) d
  obtain ⟨hprocessor, hnotifier⟩ :=
    hbatched.uncommitted_silent hw (BatchOutcome.not_committed hfail)
  have hnotifier : (d.write w).2.notifier = d.notifier := hnotifier
  refine ⟨congrArg Overheard.heard hprocessor, ?_, relay, hready.write hw, ?_⟩
  · rw [hnotifier]
    exact h.known
  · rw [hnotifier]
    exact honce

/-- **Each action uploads what it should, and leaves the device linked.** -/
theorem Linked.run {a : Action π β} (h : d.Linked hattentive replacing) (ha : a.Fair) :
    a.Uploads d ∧ (a.run d).2.Linked hattentive replacing := by
  cases a with
  | write w =>
    cases hending : (d.write w).1.ending with
    | ok u =>
      obtain ⟨value, cs, hcommitted, hheard, -, hlinked⟩ := h.write_uploads ha hending
      refine ⟨⟨fun value' cs' heq => ?_, fun e he => ?_⟩, hlinked⟩
      · rw [hcommitted] at heq
        cases heq
        exact hheard
      · rw [hending] at he
        cases he
    | error e =>
      obtain ⟨hheard, hlinked⟩ := h.write_silent ha hending
      exact ⟨⟨fun value cs heq => absurd heq (BatchOutcome.not_committed hending value cs),
        fun _ _ => hheard⟩, hlinked⟩
  | connect placeholder =>
    exact ⟨(connect_heard placeholder d).1, h.connectable.connect hattentive placeholder⟩
  | restart placeholder p =>
    have hnew := h.connectable.disconnect (p := ⟨p, d.processor.heard⟩) ha
    exact ⟨(connect_heard placeholder { d.disconnect with processor := ⟨p, d.processor.heard⟩ }).1,
      hnew.connect hattentive placeholder⟩

omit [Processor π] in
theorem store_disconnect (d : Device π) : d.disconnect.store = d.store := by
  unfold disconnect
  cases d.bridge <;> rfl

/-- **One action.** The uploads go on mirroring the records exactly if a failed write has left the
    records as they were. -/
theorem Linked.run_mirrors_iff {a : Action π β} (h : d.Linked hattentive replacing) (ha : a.Fair)
    (hmirrored : d.Mirrored) : (a.run d).2.Mirrored ↔ a.KeepsRecords d := by
  cases a with
  | write w =>
    cases hending : (d.write w).1.ending with
    | ok u =>
      obtain ⟨value, cs, -, hheard, hsteps, -⟩ := h.write_uploads ha hending
      refine iff_of_true ?_ fun e he => ?_
      · show Copies (ProcessorCall.mirror (d.write w).2.processor.heard) (d.write w).2.store.vault
        rw [hheard, ProcessorCall.mirror_append]
        exact Copies.steps hmirrored hsteps
      · rw [show ((Action.write w : Action π β).run d).1 = .ok () from hending] at he
        cases he
    | error e =>
      obtain ⟨hheard, -⟩ := h.write_silent ha hending
      have hiff : (d.write w).2.Mirrored ↔
          (d.write w).2.store.vault.records = d.store.vault.records := by
        unfold Mirrored
        rw [hheard]
        exact Copies.untold_iff hmirrored
      exact hiff.trans ⟨fun hrecords _ _ => hrecords, fun hkeeps => hkeeps e hending⟩
  | connect placeholder =>
    exact iff_of_true ((connect_heard placeholder d).2.2.2 hmirrored) nofun
  | restart placeholder p =>
    refine iff_of_true ((connect_heard placeholder _).2.2.2 ?_) nofun
    show Copies (ProcessorCall.mirror d.processor.heard) d.disconnect.store.vault
    rw [store_disconnect]
    exact hmirrored

/-! ## 4. All actions -/

/-- What holds of each action on a linked device holds throughout a run. -/
theorem Linked.each {P : Device (Overheard π) → Action π β → Prop} {as : List (Action π β)}
    (h : d.Linked hattentive replacing) (has : ∀ a ∈ as, a.Fair)
    (hP : ∀ d : Device (Overheard π), d.Linked hattentive replacing → ∀ a ∈ as, P d a) :
    Action.Each P as d := by
  induction as generalizing d with
  | nil => trivial
  | cons a as ih =>
    have hnext := (h.run (has a List.mem_cons_self)).2
    exact ⟨hP d h a List.mem_cons_self,
      ih hnext (fun a' ha' => has a' (List.mem_cons_of_mem _ ha'))
        fun d' hd' a' ha' => hP d' hd' a' (List.mem_cons_of_mem _ ha')⟩

/-- **The uploads mirror the records throughout a run** exactly if every failed write leaves the records
    as they were. -/
theorem Linked.each_mirrors_iff {as : List (Action π β)} (h : d.Linked hattentive replacing)
    (has : ∀ a ∈ as, a.Fair) (hmirrored : d.Mirrored) :
    Action.Each (fun d a => (a.run d).2.Mirrored) as d ↔ Action.Each Action.KeepsRecords as d := by
  induction as generalizing d with
  | nil => exact Iff.rfl
  | cons a as ih =>
    have ha := has a List.mem_cons_self
    have hiff := h.run_mirrors_iff ha hmirrored
    have hnext := (h.run ha).2
    have hrest := fun a' ha' => has a' (List.mem_cons_of_mem _ ha')
    -- The later actions begin with a mirror on either side, as the first one has kept it.
    constructor
    · rintro ⟨hfirst, hall⟩
      exact ⟨hiff.1 hfirst, (ih hnext hrest hfirst).1 hall⟩
    · rintro ⟨hkeeps, hall⟩
      have hfirst := hiff.2 hkeeps
      exact ⟨hfirst, (ih hnext hrest hfirst).2 hall⟩

/-- A contained write leaves the records as they were if it fails; making a bridge does not fail. -/
theorem Linked.keepsRecords {a : Action π β} (h : d.Linked hattentive replacing) (ha : a.Fair)
    (hsafe : replacing = false ∨ ∀ w, a = .write w → w.GivesUp) : a.KeepsRecords d := by
  obtain ⟨relay, hready, -⟩ := h.relay
  cases a with
  | write w =>
    have hcontained : (Call.write w).Contained d := by
      rcases hsafe with htable | hgive
      · exact Call.contained_of_not_replaces ha (hready.replaces.trans htable)
      · exact Call.contained_of_givesUp fun w' hw' => by
          cases hw'
          exact hgive w rfl
    exact fun e hfail => congrArg Vault.records (hcontained.vault ha hready.quiet.canRollBack hfail)
  | connect | restart => nofun

omit [Processor π] in
/-- Nothing was uploaded yet, and there is no record. -/
theorem mirrored_of_greetings (hempty : ∀ key, d.store.vault.records.get? key = none)
    (hgreeted : ∀ c ∈ d.processor.heard, c.Greets) : d.Mirrored := by
  have hmirror : ProcessorCall.mirror d.processor.heard = ∅ := by
    unfold ProcessorCall.mirror
    generalize d.processor.heard = calls at hgreeted
    induction calls with
    | nil => rfl
    | cons c calls ih =>
      rw [List.foldl_cons, (hgreeted c List.mem_cons_self).upload]
      exact ih fun c' hc' => hgreeted c' (List.mem_cons_of_mem _ hc')
  unfold Mirrored
  rw [hmirror]
  exact .empty hempty

/-- **Uploads mirror the records.** Begin with a device without records whose bridge is in place. Each
    committed write of a run is uploaded once, change by change, and a failed one is not. The uploads
    mirror the records throughout the run exactly if every failed write leaves the records as they
    were. With a table it does, and so it does if it gives up when an edit has failed. -/
theorem uploads_mirror_iff (hattentive : Processor.Attentive π)
    (h : d.Linked (Overheard.attentive hattentive) d.store.replaces)
    (hempty : ∀ key, d.store.vault.records.get? key = none)
    (hgreeted : ∀ c ∈ d.processor.heard, c.Greets) (as : List (Action π β))
    (has : ∀ a ∈ as, a.Fair) :
    d.Mirrored ∧ Action.Each Action.Uploads as d ∧
      (Action.Each (fun d a => (a.run d).2.Mirrored) as d ↔ Action.Each Action.KeepsRecords as d) ∧
      (d.store.replaces = false ∨ (∀ w, .write w ∈ as → w.GivesUp) →
        Action.Each (fun d a => (a.run d).2.Mirrored) as d) := by
  have hmirrored := mirrored_of_greetings hempty hgreeted
  have hiff := h.each_mirrors_iff has hmirrored
  refine ⟨hmirrored, h.each has fun d' hd' a ha => (hd'.run (has a ha)).1, hiff, fun hsafe => ?_⟩
  refine hiff.2 (h.each has fun d' hd' a ha => hd'.keepsRecords (has a ha) ?_)
  exact hsafe.imp_right fun hgive w hw => hgive w (hw ▸ ha)

/-! ## 5. Two runs -/

/-- A device with a store and a bridge whose processor is overheard. -/
def overheard (s : Store) : Device (Overheard Recorder) :=
  Device.connect "" { store := s, processor := ⟨{}, []⟩, notifier := .ofCapacity 1 }

theorem linked_overheard {s : Store} (hquiet : s.Quiet) (hsound : s.Sound) (hclosed : s.saved = none) :
    (overheard s).Linked (Overheard.attentive Recorder.attentive) (overheard s).store.replaces := by
  refine Connectable.connect _ ?_ ""
  rw [overheard, (connect_heard _ _).2.1]
  exact ⟨hquiet, rfl, hsound, hclosed, rfl, rfl, nofun, nofun⟩

theorem greets_overheard (s : Store) : ∀ c ∈ (overheard s).processor.heard, c.Greets := by
  obtain ⟨⟨c, hc, hheard⟩, -⟩ := connect_heard ""
    { store := s, processor := (⟨{}, []⟩ : Overheard Recorder), notifier := .ofCapacity 1 }
  intro c' hc'
  rw [overheard, hheard, List.nil_append, List.mem_singleton] at hc'
  rw [hc']
  exact hc

/-- Two writes, with a new bridge before the second one and a new processor behind it. -/
def errands : List (Action Recorder Unit) :=
  [.write renewal, .connect "", .write .stubborn, .restart "" {}]

theorem fair_errands : ∀ a ∈ errands, a.Fair := by
  simp only [errands, List.mem_cons, List.not_mem_nil, or_false, forall_eq_or_imp, forall_eq]
  exact ⟨fun _ _ => trivial, trivial, Write.plain_stubborn, rfl⟩

theorem uploads_mirror_errands :
    (overheard (.table {})).Linked (Overheard.attentive Recorder.attentive)
        (overheard (.table {})).store.replaces ∧
      (∀ key, (overheard (.table {})).store.vault.records.get? key = none) ∧
      (∀ a ∈ errands, a.Fair) ∧
      Action.Each Action.Uploads errands (overheard (.table {})) ∧
      Action.Each (fun d a => (a.run d).2.Mirrored) errands (overheard (.table {})) := by
  have hlinked := linked_overheard (s := .table {}) rfl Store.Reached.table.sound rfl
  have hempty : ∀ key, (overheard (.table {})).store.vault.records.get? key = none := fun _ => rfl
  obtain ⟨-, huploads, -, hsafe⟩ := uploads_mirror_iff Recorder.attentive hlinked hempty
    (greets_overheard _) errands fair_errands
  exact ⟨hlinked, hempty, fair_errands, huploads, hsafe (.inl rfl)⟩

/-- A database without records that has given out all primary keys but the greatest one. -/
def spent : Database := Database.fresh.putRecords { lastKey := .greatest - 1 }

theorem sound_spent : (Store.database spent).Sound :=
  ⟨⟨nofun, Store.Sound.fresh.content.complete⟩, nofun⟩

/-- A write that adds a record. -/
def entry : Write Unit := .edit (.add (.sample "a")) fun _ => .done () none

/-- The last key is given out to a record, which is uploaded. The next write fails, its record is gone,
    and the upload has not been taken back. -/
theorem stubborn_stops_mirroring :
    (overheard (.database spent)).Linked (Overheard.attentive Recorder.attentive) true ∧
      (∀ key, (overheard (.database spent)).store.vault.records.get? key = none) ∧
      entry.Plain ∧ Write.stubborn.Plain ∧
      ∃ d, (Action.write entry).run (overheard (.database spent)) = (.ok (), d) ∧ d.Mirrored ∧
        ((Action.write .stubborn).run d).1 = .error DatabaseFault.noTransaction.store ∧
        ¬ ((Action.write .stubborn).run d).2.Mirrored := by
  have hlinked : (overheard (.database spent)).Linked (Overheard.attentive Recorder.attentive) true :=
    linked_overheard (s := .database spent) ⟨rfl, rfl⟩ sound_spent rfl
  have hempty : ∀ key, (overheard (.database spent)).store.vault.records.get? key = none := fun _ => rfl
  have hentry : entry.Plain := fun _ => trivial
  have hruns : ((Action.write entry).run (overheard (.database spent))).1 = .ok () ∧
      ((Action.write .stubborn).run ((Action.write entry).run (overheard (.database spent))).2).1 =
        .error DatabaseFault.noTransaction.store ∧
      (((Action.write entry).run (overheard (.database spent))).2.store.vault.records.get?
        .greatest).isSome = true ∧
      ((Action.write .stubborn).run
        ((Action.write entry).run (overheard (.database spent))).2).2.store.vault.records.get?
          .greatest = none := by decide +kernel
  obtain ⟨hok, hfail, hbefore, hgone⟩ := hruns
  have hmirrored := mirrored_of_greetings hempty (greets_overheard (.database spent))
  have hnext := (hlinked.run (a := .write entry) hentry).2
  have hmirrored' := (hlinked.run_mirrors_iff (a := .write entry) hentry hmirrored).2 fun e he => by
    rw [hok] at he
    cases he
  refine ⟨hlinked, hempty, hentry, Write.plain_stubborn, _, Prod.ext hok rfl, hmirrored', hfail,
    fun hstill => ?_⟩
  have hkeeps := (hnext.run_mirrors_iff (a := .write .stubborn) Write.plain_stubborn hmirrored').1
    hstill _ hfail
  rw [hkeeps] at hgone
  rw [hgone] at hbefore
  cases hbefore

end Device

end CredentialSync
