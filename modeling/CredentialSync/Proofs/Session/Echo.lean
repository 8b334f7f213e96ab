import CredentialSync.Proofs.Merge.LocalOnly
import CredentialSync.Proofs.Mirror.Linked
import CredentialSync.Proofs.Session.Turn

/-!
# Remote data is not echoed

What the remote side has sent is not to be sent back to it. In a session of turns that all belong to the
remote side (`Turn.Remote`), the processor is told of no removal, and of a record only by a merge that has
neither overwritten nor removed it (`Turn.Permits`). The relay forwards nothing. It skips each committed
batch that is not empty, once, and nothing else (`never_echoed`).

The device is `Attached`: the relay of its bridge is registered once. That is what making a bridge achieves
(`attached_connect`), and no turn of the remote side changes it (`Skipped.attached`).
-/

namespace CredentialSync

open Attempt Device

variable {π : Type} {α β : Type}

/-! ## 1. What the relay has counted -/

namespace Device

/-- The device has a bridge with this relay, which is registered once. -/
structure Attached (relay : ObserverId) (d : Device π) : Prop where
  bridge : d.bridge.map (·.relay) = some relay
  once : d.notifier.live.count relay = 1

/-- A new bridge is attached. -/
theorem attached_connect [Processor π] {d : Device π} (hknown : d.notifier.Known)
    (hformer : ∀ b, d.bridge = some b → b.relay < d.notifier.nextId) (placeholder : String) :
    Attached d.notifier.nextId (d.connect placeholder) := by
  obtain ⟨c, -, hconnect⟩ := connect_eq placeholder d
  rw [hconnect]
  refine ⟨rfl, hknown.count_replace fun o ho => ?_⟩
  obtain ⟨b, hb, rfl⟩ := Option.map_eq_some_iff.1 ho
  exact hformer b hb

/-- The observers are as before, and so is what the relay has forwarded. It has skipped `n` batches. -/
structure Skipped (n : Nat) (d d' : Device π) : Prop where
  live : d'.notifier.live = d.notifier.live
  relay : d'.bridge.map (·.relay) = d.bridge.map (·.relay)
  relayed : d'.relayed = d.relayed.map fun c => (c.1, c.2 + UInt64.ofNat n)

namespace Skipped

variable {d d' d'' : Device π} {m n : Nat} {relay : ObserverId}

/-- Only the observers and the bridge are of account. -/
theorem of_same (hlive : d'.notifier.live = d.notifier.live) (hbridge : d'.bridge = d.bridge) :
    Skipped 0 d d' := by
  refine ⟨hlive, congrArg _ hbridge, ?_⟩
  rw [Device.relayed, hbridge]
  show d.relayed = _
  cases d.relayed <;> simp

theorem trans (h : Skipped m d d') (h' : Skipped n d' d'') : Skipped (m + n) d d'' := by
  refine ⟨h'.live.trans h.live, h'.relay.trans h.relay, ?_⟩
  rw [h'.relayed, h.relayed, Option.map_map]
  congr 1
  funext c
  simp [UInt64.ofNat_add, UInt64.add_assoc]

theorem attached (h : Skipped n d d') (hd : d.Attached relay) : d'.Attached relay :=
  ⟨h.relay.trans hd.bridge, h.live ▸ hd.once⟩

/-- Something else happens, in which neither the observers nor the bridge have a part. -/
theorem unchanged (h : Skipped n d d') (hlive : d''.notifier.live = d'.notifier.live)
    (hbridge : d''.bridge = d'.bridge) : Skipped n d d'' := h.trans (.of_same hlive hbridge)

theorem measure (h : Skipped n d d') (metric : Metric) (value : Nat) :
    Skipped n d (d'.measure metric value) := h.unchanged rfl rfl

/-- Something else is counted. -/
theorem tally (h : Skipped n d d') (f : Stats → Stats) (hrelayed : ∀ s, (f s).relayed = s.relayed)
    (hskipped : ∀ s, (f s).relaySkipped = s.relaySkipped) : Skipped n d (d'.tally f) := by
  refine ⟨h.live, ?_, ?_⟩
  · rw [← h.relay, Device.tally, Option.map_map]
    rfl
  · rw [← h.relayed, Device.relayed, Device.relayed, Device.tally, Option.map_map]
    congr 1
    funext b
    exact Prod.ext (hrelayed b.stats) (hskipped b.stats)

theorem countBatch (h : Skipped n d d') (batcher : Batcher) (f : Stats → Stats)
    (hrelayed : ∀ s, (f s).relayed = s.relayed) (hskipped : ∀ s, (f s).relaySkipped = s.relaySkipped) :
    Skipped n d (d'.countBatch batcher f) := by
  cases batcher with
  | bridge => exact h.tally f hrelayed hskipped
  | separate => exact h

end Skipped

/-! ## 2. Batches of the remote side -/

variable [Processor π] {relay : ObserverId} {d d' : Device π}

/-- The relay skips a batch of the remote side. -/
theorem skipped_relay (cs : List LocalChange) (d : Device π) :
    Skipped 1 d (d.relay ⟨.remote, cs⟩) := by
  refine ⟨rfl, ?_, ?_⟩
  · show (d.bridge.map _).map _ = _
    rw [Option.map_map]
    rfl
  · show (d.bridge.map _).map _ = (d.bridge.map _).map _
    rw [Option.map_map, Option.map_map]
    rfl

theorem Attached.skipped_callObserver (h : d.Attached relay) (cs : List LocalChange) (o : ObserverId) :
    Skipped (if o == relay then 1 else 0) d (d.callObserver ⟨.remote, cs⟩ o) := by
  obtain ⟨b, hb, rfl⟩ := Option.map_eq_some_iff.1 h.bridge
  rw [callObserver, hb, Option.any_some, BEq.comm]
  split
  · exact skipped_relay cs d
  · exact .of_same rfl rfl

/-- The relay skips the batch as often as it is registered. -/
theorem Attached.skipped_observers (h : d.Attached relay) (cs : List LocalChange)
    (os : List ObserverId) : Skipped (os.count relay) d (os.foldl (callObserver ⟨.remote, cs⟩) d) := by
  induction os generalizing d with
  | nil => exact .of_same rfl rfl
  | cons o os ih =>
    have hfirst := h.skipped_callObserver cs o
    rw [List.count_cons, Nat.add_comm]
    exact hfirst.trans (ih (hfirst.attached h))

/-- **Of changes of the remote side everyone is told, and the relay skips them once.** -/
theorem Attached.skipped_told (h : d.Attached relay) (cs : List LocalChange) :
    Skipped (!cs.isEmpty).toNat d (d.told .remote cs) := by
  unfold told
  cases cs.isEmpty with
  | true => exact .of_same rfl rfl
  | false =>
    rw [if_neg Bool.false_ne_true, notify_eq]
    have hpruned : Skipped 0 d { d with notifier := d.notifier.prune } :=
      .of_same (Notifier.live_prune _) rfl
    have hall := hpruned.trans ((hpruned.attached h).skipped_observers cs d.notifier.live)
    rw [h.once] at hall
    exact hall.unchanged rfl rfl

/-- The batch was committed and has changed something. -/
def BatchOutcome.counts (o : BatchOutcome β) : Bool := o.committed?.any fun cs => !cs.isEmpty

/-- **The relay skips a batch of the remote side if it is committed and not empty, and nothing else.** -/
theorem Batched.skipped {batcher : Batcher} {body : Device π → Draft β × Device π} {o : BatchOutcome β}
    (h : Batched batcher .remote body d o d') (hd : d.Attached relay)
    (hbody : ∀ d, Skipped 0 d (body d).2) : Skipped o.counts.toNat d d' := by
  have hbegun (s : Store) : Skipped 0 d (body (d.withStore s)).2 := by
    have hstart : Skipped 0 d (d.withStore s) := .of_same rfl rfl
    exact hstart.trans (hbody _)
  cases h with
  | refused => exact .of_same rfl rfl
  | @abandoned s =>
    have hrolled : Skipped 0 d ((onStore Store.rollback).perform (body (d.withStore s)).2).2 :=
      (hbegun s).unchanged rfl rfl
    exact (hrolled.countBatch batcher Stats.addRolledBack (fun _ => rfl) fun _ => rfl).measure _ _
  | @committed s t =>
    have hstored : Skipped 0 d ((body (d.withStore s)).2.withStore t) := (hbegun s).unchanged rfl rfl
    have hcounted := hstored.countBatch batcher Stats.addCommitted (fun _ => rfl) fun _ => rfl
    have hsettled := (hcounted.measure .batchCommitted 1).measure .batchSize
      (body (d.withStore s)).1.changes.length
    have hall := hsettled.trans ((hsettled.attached hd).skipped_told (body (d.withStore s)).1.changes)
    rw [Nat.zero_add] at hall
    exact hall

/-- If the body does not tell the processor of anything, nobody does. -/
theorem Batched.processor_kept {batcher : Batcher} {body : Device π → Draft β × Device π}
    {o : BatchOutcome β} (h : Batched batcher .remote body d o d')
    (hbody : ∀ d, (body d).2.processor = d.processor) : d'.processor = d.processor := by
  cases h with
  | refused => rfl
  | @abandoned s =>
    refine Eq.trans ?_ (hbody (d.withStore s))
    cases batcher <;> rfl
  | @committed s =>
    rw [(told_remote _ _).processor]
    refine Eq.trans ?_ (hbody (d.withStore s))
    cases batcher <;> rfl

omit [Processor π] in
/-- The processor is not told that its metadata is forgotten. -/
theorem processor_forget (s : Scope π) : (forgetMetadata.perform s).2.processor = s.processor := by
  have hread := Work.reads_onStore Store.reads_readMetadata s
  unfold forgetMetadata
  rw [perform_bind]
  rcases hres : (Work.onStore Store.readMetadata).perform s with ⟨e | metadata, t⟩
  all_goals
    rw [hres] at hread
    obtain rfl : t = s := hread
  · rfl
  · show (perform (Work.write _ >>= fun _ => Work.settle) t).2.processor = _
    rw [bind_of_ok (a := Work.write _) rfl, Work.reads_settle]
    exact (Work.writes_keep _ t).2.2.1

omit [Processor π] in
theorem skipped_body (w : Work π α) (d : Device π) : Skipped 0 d (body w d).2 := .of_same rfl rfl

end Device

/-! ## 3. Turns of the remote side -/

/-- The write runs no other writes within it. -/
def Write.Unnested : Write β → Prop
  | .done _ _ => True
  | .edit _ next => ∀ r, (next r).Unnested
  | .record? _ next => ∀ r, (next r).Unnested
  | .find? _ next => ∀ r, (next r).Unnested
  | .readAll next => ∀ r, (next r).Unnested
  | .changes next => ∀ cs, (next cs).Unnested
  | .writeMetadata _ next => ∀ r, (next r).Unnested
  | .rollback next => ∀ r, (next r).Unnested
  | .commit next => ∀ r, (next r).Unnested
  | .nested _ _ => False

variable [Processor π]

/-- Such a write works on the store and on nothing else. -/
theorem Write.Unnested.run {w : Write β} (hw : w.Unnested) (cs : List LocalChange) (d : Device π) :
    ∃ s, (w.run cs d).2 = d.withStore s := by
  induction w generalizing cs d with
  | done => exact ⟨d.store, rfl⟩
  | edit e next ih => exact ih _ (hw _) _ (d.withStore _)
  | record? key next ih => exact ih _ (hw _) cs (d.withStore _)
  | find? key next ih => exact ih _ (hw _) cs (d.withStore _)
  | readAll next ih => exact ih _ (hw _) cs (d.withStore _)
  | changes next ih => exact ih cs (hw cs) cs d
  | writeMetadata m next ih => exact ih _ (hw _) cs (d.withStore _)
  | rollback next ih => exact ih _ (hw _) cs (d.withStore _)
  | commit next ih => exact ih _ (hw _) cs (d.withStore _)
  | nested => exact hw.elim

namespace Turn

/-- The turn is no write of this device. -/
def Remote : Turn β → Prop
  | .call (.write _) => False
  | .batch _ side w => side = .remote ∧ w.Unnested
  | _ => True

/-- The turn commits a batch that is not empty. -/
def commits (t : Turn β) (d : Device π) : Bool := (t.committed? d).any fun cs => !cs.isEmpty

/-- How many turns commit a batch that is not empty. -/
def commitCount : List (Turn β) → Device π → Nat
  | [], _ => 0
  | t :: ts, d => (t.commits d).toNat + commitCount ts (t.run d).2

/-- What the processor may be told in the course of a turn of the remote side. -/
def Permits (t : Turn β) (d : Device π) (c : ProcessorCall) : Prop :=
  match t with
  | .call (.merge changes) =>
    (∃ key e, c = .assignKey key e) ∨
      ∃ key r, Merge.LocalOnly changes d.begun.scope key r ∧ c = Merge.putOf (key, r)
  | .call (.apply _) => ∃ key e, c = .assignKey key e
  | _ => False

theorem Permits.ne_delete {t : Turn β} {d : Device π} {c : ProcessorCall} (h : t.Permits d c)
    (key : StorageKey) : c ≠ .delete key := by
  rintro rfl
  cases t with
  | call call =>
    cases call with
    | merge changes => rcases h with ⟨_, _, h⟩ | ⟨_, _, -, h⟩ <;> cases h
    | apply changes =>
      obtain ⟨_, _, h⟩ := h
      cases h
    | forget | write => exact h
  | stop | batch | collect | tell => exact h

/-! ## 4. One turn -/

/-- **What the relay counts in one turn.** -/
theorem Remote.skipped {t : Turn β} (ht : t.Remote) {relay : ObserverId} {d : Device π}
    (hd : d.Attached relay) : Skipped (t.commits d).toNat d (t.run d).2 := by
  cases t with
  | call c =>
    cases c with
    | merge changes =>
      have hbatch := (batched .bridge .remote (body (Merge.work changes)) d).skipped hd (skipped_body _)
      rw [run, Call.run, perform_map, merge_perform]
      split
      · exact hbatch.measure _ _
      · exact (((hbatch.measure _ _).measure _ _).measure _ _).measure _ _
    | apply changes =>
      have hbatch := (batched .bridge .remote (body (Apply.work changes)) d).skipped hd (skipped_body _)
      rw [run, Call.run, perform_map, apply_perform]
      split
      · exact (hbatch.measure _ _).measure _ _
      · exact ((hbatch.measure _ _).measure _ _).tally (Stats.addApplied _) (fun _ => rfl) fun _ => rfl
    | forget =>
      rw [run, Call.run, stopSync_perform]
      exact (batched .bridge .remote (body forgetMetadata) d).skipped hd (skipped_body _)
    | write w => exact ht.elim
  | batch batcher side w =>
    obtain ⟨rfl, hw⟩ := ht
    refine (batched batcher .remote (w.run []) d).skipped hd fun d => ?_
    obtain ⟨s, hs⟩ := hw.run [] d
    rw [hs]
    exact .of_same rfl rfl
  | stop | collect | tell => exact .of_same rfl rfl

/-- All that the processor hears in the course of the turn is permitted. -/
def Heard (d : Device (Overheard π)) (t : Turn β) : Prop :=
  ∃ calls, (t.run d).2.processor.heard = d.processor.heard ++ calls ∧ ∀ c ∈ calls, t.Permits d c

variable {t : Turn β} {d : Device (Overheard π)}

/-- A merge or an application, which may tell of keys. -/
theorem heard_work {P : ProcessorCall → Prop} {w : Work (Overheard π) α}
    (hw : Work.Tells P w d.begun.scope)
    (hsame : SameWork (d.batch .bridge .remote (body w)).2 (t.run d).2)
    (hkeys : ∀ key e, t.Permits d (.assignKey key e)) (hothers : ∀ c, P c → t.Permits d c) :
    Heard d t := by
  obtain ⟨calls, last, ⟨hheard, hassign⟩, -⟩ := (batched .bridge .remote (body w) d).hears hw
  refine ⟨calls, ?_, fun c hc => ?_⟩
  · rw [hsame.processor]
    exact hheard
  · cases c with
    | assignKey key e => exact hkeys key e
    | put | delete | ready | report => exact hothers _ (hassign.others _ hc rfl)

theorem heard_nothing (h : (t.run d).2.processor = d.processor) : Heard d t :=
  ⟨[], by rw [h, List.append_nil], nofun⟩

/-- **What the processor hears in one turn.** -/
theorem Remote.heard (ht : t.Remote) (d : Device (Overheard π)) : Heard d t := by
  cases t with
  | call c =>
    cases c with
    | merge changes =>
      exact heard_work (Merge.tells_merge (s := d.begun.scope) rfl changes) (sameWork_merge changes d)
        (fun key e => .inl ⟨key, e, rfl⟩) fun c hc => .inr hc
    | apply changes =>
      exact heard_work (Work.tells_apply (s := d.begun.scope) changes) (sameWork_apply changes d)
        (fun key e => ⟨key, e, rfl⟩) fun c hc => hc.elim
    | forget =>
      refine heard_nothing ?_
      rw [run, Call.run, stopSync_perform]
      exact (batched .bridge .remote (body forgetMetadata) d).processor_kept fun d =>
        processor_forget d.scope
    | write w => exact ht.elim
  | batch batcher side w =>
    obtain ⟨rfl, hw⟩ := ht
    refine heard_nothing ((batched batcher .remote (w.run []) d).processor_kept fun d => ?_)
    obtain ⟨s, hs⟩ := hw.run [] d
    rw [hs]
    rfl
  | stop | collect | tell => exact heard_nothing rfl

/-! ## 5. Sessions -/

variable {ts : List (Turn β)} {relay : ObserverId}

theorem skipped_runAll (hts : ∀ t ∈ ts, t.Remote) {d : Device π} (hd : d.Attached relay) :
    Skipped (commitCount ts d) d (runAll ts d) := by
  induction ts generalizing d with
  | nil => exact .of_same rfl rfl
  | cons t ts ih =>
    have hfirst := (hts t List.mem_cons_self).skipped hd
    exact hfirst.trans (ih (fun t' ht' => hts t' (List.mem_cons_of_mem _ ht')) (hfirst.attached hd))

theorem each_heard (hts : ∀ t ∈ ts, t.Remote) (d : Device (Overheard π)) : Each Heard ts d := by
  induction ts generalizing d with
  | nil => trivial
  | cons t ts ih =>
    exact ⟨(hts t List.mem_cons_self).heard d, ih (fun t' ht' => hts t' (List.mem_cons_of_mem _ ht')) _⟩

/-- No removal is ever heard of. -/
theorem heard_runAll (h : Each Heard ts d) :
    ∃ calls, (runAll ts d).processor.heard = d.processor.heard ++ calls ∧
      ∀ key, .delete key ∉ calls := by
  induction ts generalizing d with
  | nil => exact ⟨[], (List.append_nil _).symm, fun _ => List.not_mem_nil⟩
  | cons t ts ih =>
    obtain ⟨⟨calls, hheard, hpermits⟩, hrest⟩ := h
    obtain ⟨calls', hheard', hnone⟩ := ih hrest
    refine ⟨calls ++ calls', ?_, fun key hmem => ?_⟩
    · rw [runAll, hheard', hheard, List.append_assoc]
    · rcases List.mem_append.1 hmem with hmem | hmem
      · exact (hpermits _ hmem).ne_delete key rfl
      · exact hnone key hmem

/-- **Remote data is never echoed.** In a session of turns of the remote side, whether they succeed or fail,
    the processor hears in each turn of keys and of local-only records at most, as `Permits` says, and of no
    removal at all. The relay has forwarded as much at the end as at the beginning. It has skipped one batch
    for each turn that committed one that was not empty. -/
theorem never_echoed (hts : ∀ t ∈ ts, t.Remote) (hd : d.Attached relay) :
    Each Heard ts d ∧
      (∃ calls, (runAll ts d).processor.heard = d.processor.heard ++ calls ∧
        ∀ key, .delete key ∉ calls) ∧
      (runAll ts d).relayed =
        d.relayed.map fun (forwarded, skipped) => (forwarded, skipped + UInt64.ofNat (commitCount ts d)) :=
  ⟨each_heard hts d, heard_runAll (each_heard hts d), (skipped_runAll hts hd).relayed⟩

/-- A record is added, an entity is merged, a removal names a record that is not there, and the metadata is
    forgotten. -/
def exchange : List (Turn Unit) :=
  [.batch .separate .remote (.edit (.add (.sample "b")) fun _ => .done () none),
    .call (.merge [.add (arrival "a")]),
    .call (.apply [{ kind := .delete, storageKey := "99", data := none }]),
    .call .forget]

/-- Two of the turns commit a batch that is not empty. -/
theorem never_echoed_exchange :
    (∀ t ∈ exchange, t.Remote) ∧ listening.Attached 0 ∧
      (runAll exchange listening).relayed = some (0, 2) := by
  have hremote : ∀ t ∈ exchange, t.Remote := by simp [exchange, Remote, Write.Unnested]
  have hattached : listening.Attached 0 := ⟨rfl, rfl⟩
  have hcount : commitCount exchange listening = 2 := by decide +kernel
  refine ⟨hremote, hattached, ?_⟩
  rw [(never_echoed hremote hattached).2.2, hcount]
  rfl

end Turn

end CredentialSync
