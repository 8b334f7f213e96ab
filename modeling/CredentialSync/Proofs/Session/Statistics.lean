import CredentialSync.Proofs.Bridge.Forwarding
import CredentialSync.Proofs.Merge.LocalOnly
import CredentialSync.Proofs.Session.Turn

/-!
# Statistics and metrics

A bridge counts its work twice: in its statistics, and in the measurements of the device. The counts are
made in different places (the batch, the application, the relay), and each place can be left by an error.

A `Move` is anything that happens to a device while it keeps its bridge: calls, which may fail, and what is
done to store and processor from outside. Its `log` says which batches began and which were handed to the
relay. `Entered` says that statistics, measurements and reported errors have grown together, as the log
asks for; so they do over every run of moves (`statistics_agree`).
-/

namespace CredentialSync

open Attempt Device Measurement

/-! ## 1. Sums of measurements -/

namespace Measurement

variable (metric : Metric) (ms ms' : List Measurement)

theorem values_append : values metric (ms ++ ms') = values metric ms ++ values metric ms' := by
  rw [values, List.filter_append, List.map_append]
  rfl

/-- What was added up before is added to the rest. -/
theorem foldl_add (ns : List Nat) (n : Nat) :
    ns.foldl (· + ·) n = n + ns.foldl (· + ·) 0 := by
  induction ns generalizing n with
  | nil => rfl
  | cons m ms ih =>
    rw [List.foldl_cons, List.foldl_cons, ih (n + m), ih (0 + m), Nat.zero_add, Nat.add_assoc]

theorem total_append : total metric (ms ++ ms') = total metric ms + total metric ms' := by
  rw [total, values_append, List.foldl_append, foldl_add]
  rfl

end Measurement

namespace Stats

/-- Statistics that also count what was measured. -/
def noting (ms : List Measurement) (s : Stats) : Stats where
  committed := s.committed + UInt64.ofNat (total .batchCommitted ms)
  rolledBack := s.rolledBack + UInt64.ofNat (total .batchRolledBack ms)
  applied := s.applied + UInt64.ofNat (total .applyChanges ms)
  relayed := s.relayed + UInt64.ofNat (total .relayPut ms + total .relayDelete ms)
  relaySkipped := s.relaySkipped + UInt64.ofNat (total .relaySkipped ms)

theorem noting_nil (s : Stats) : s.noting [] = s := by
  simp [noting, total, values]

theorem noting_skipped (s : Stats) : s.noting [⟨.relaySkipped, 1⟩] = s.addRelaySkipped := by
  simp [noting, total, values, addRelaySkipped]

theorem noting_relayed (puts deletes : Nat) (s : Stats) :
    s.noting [⟨.relayPut, puts⟩, ⟨.relayDelete, deletes⟩] =
      s.addRelayed (UInt64.ofNat (puts + deletes)) := by
  simp [noting, total, values, addRelayed]

theorem noting_committed (size : Nat) (s : Stats) :
    s.noting [⟨.batchCommitted, 1⟩, ⟨.batchSize, size⟩] = s.addCommitted := by
  simp [noting, total, values, addCommitted]

theorem noting_rolledBack (s : Stats) : s.noting [⟨.batchRolledBack, 1⟩] = s.addRolledBack := by
  simp [noting, total, values, addRolledBack]

theorem noting_applied (n : Nat) (s : Stats) :
    s.noting [⟨.applyDuration, 0⟩, ⟨.applyChanges, n⟩] = s.addApplied (UInt64.ofNat n) := by
  simp [noting, total, values, addApplied]

theorem noting_append (ms ms' : List Measurement) (s : Stats) :
    s.noting (ms ++ ms') = (s.noting ms).noting ms' := by
  have hsum (n m n' m' : Nat) : n + n' + (m + m') = n + m + (n' + m') := by omega
  simp only [noting, total_append, hsum, UInt64.ofNat_add, UInt64.add_assoc]

end Stats

/-! ## 2. What happens in a run -/

variable {π : Type} [Processor π] {α β : Type}

/-- What becomes of a batch that is handed to the relay. -/
inductive Reception where
  | skipped
  | forwarded
  | reported (e : SyncError)

namespace Device

/-- What becomes of the batch if it is handed to the relay now. -/
def reception (batch : ChangeBatch) (d : Device π) : Reception :=
  if batch.isLocal && Processor.isTracking d.processor then
    match ((forward batch).perform d).1 with
    | .ok _ => .forwarded
    | .error e => .reported e
  else .skipped

end Device

/-- Something that happens in a run. -/
inductive Incident (π : Type) where
  /-- The transaction of a batch has begun. -/
  | began
  /-- A batch is handed to the relay of a device. -/
  | handed (batch : ChangeBatch) (d : Device π)

namespace Incident

/-- The sum of a number over all incidents. -/
def sum (f : Incident π → Nat) : List (Incident π) → Nat
  | [] => 0
  | i :: is => f i + sum f is

omit [Processor π] in
theorem sum_append (f : Incident π → Nat) (log log' : List (Incident π)) :
    sum f (log ++ log') = sum f log + sum f log' := by
  induction log with
  | nil => exact (Nat.zero_add _).symm
  | cons i is ih => rw [List.cons_append, sum, sum, ih, Nat.add_assoc]

omit [Processor π] in
/-- How many transactions of a batch begin. -/
def begins : Incident π → Nat
  | .began => 1
  | .handed _ _ => 0

/-- How many batches the relay skips. -/
def skips : Incident π → Nat
  | .began => 0
  | .handed batch d =>
    match d.reception batch with
    | .skipped => 1
    | _ => 0

/-- How many changes the relay forwards. -/
def relays : Incident π → Nat
  | .began => 0
  | .handed batch d =>
    match d.reception batch with
    | .forwarded => batch.changes.length
    | _ => 0

/-- The error that the relay reports. -/
def reported? : Incident π → Option SyncError
  | .began => none
  | .handed batch d =>
    match d.reception batch with
    | .reported e => some e
    | _ => none

end Incident

/-- The error that the processor is told of. -/
def ProcessorCall.error? : ProcessorCall → Option SyncError
  | .report e => some e
  | _ => none

namespace Device

/-- Of the observers that are called, those that are the relay are handed the batch. -/
def handedTo (batch : ChangeBatch) : List ObserverId → Device π → List (Incident π)
  | [], _ => []
  | o :: os, d =>
    (if d.bridge.any (·.relay == o) then [.handed batch d] else []) ++
      handedTo batch os (d.callObserver batch o)

/-- What happens when everyone is told about a commit. -/
def toldLog (side : Side) (changes : List LocalChange) (d : Device π) : List (Incident π) :=
  if changes.isEmpty then []
  else handedTo ⟨side, changes⟩ d.notifier.live { d with notifier := d.notifier.prune }

/-- What happens in a batch of the bridge, given what happens in its body. -/
def batchLog (side : Side) (body : Device π → Draft β × Device π)
    (inner : Device π → List (Incident π)) (d : Device π) : List (Incident π) :=
  match Store.begin.perform d.store with
  | (.error _, _) => []
  | (.ok _, s) =>
    let (draft, d') := body (d.withStore s)
    .began :: (inner (d.withStore s) ++
      match draft.failure, Store.commit.perform d'.store with
      | none, (.ok _, t) =>
        ((d'.withStore t).settled .bridge draft.changes).toldLog side draft.changes
      | _, _ => [])

end Device

/-- What happens in a write. -/
def Write.log : Write β → List LocalChange → Device π → List (Incident π)
  | .done _ _, _, _ => []
  | .edit e next, cs, d =>
    let (r, s) := e.attempt.perform d.store
    (next r).log (cs ++ Store.reported r) (d.withStore s)
  | .record? key next, cs, d => (next ((Store.record? key).perform d.store).1).log cs d
  | .find? key next, cs, d => (next ((Store.find? key).perform d.store).1).log cs d
  | .readAll next, cs, d => (next (Store.readAll.perform d.store).1).log cs d
  | .changes next, cs, d => (next cs).log cs d
  | .writeMetadata w next, cs, d =>
    let (r, s) := (Store.writeMetadata w).perform d.store
    (next r).log cs (d.withStore s)
  | .rollback next, cs, d =>
    let (r, s) := Store.rollback.perform d.store
    (next r).log cs (d.withStore s)
  | .commit next, cs, d =>
    let (r, s) := Store.commit.perform d.store
    (next r).log cs (d.withStore s)
  | .nested inner next, cs, d =>
    let (outcome, d') := d.batch .bridge .device (inner.run [])
    d.batchLog .device (inner.run []) (inner.log []) ++ (next outcome).log cs d'

/-- What happens to a device while it keeps its bridge. -/
inductive Move (π β : Type) where
  /-- The bridge is asked to merge, to apply, to forget the metadata, or to write. -/
  | call (c : Call β)
  /-- Synchronisation ends, and the metadata stays. -/
  | stop
  /-- A batch is handed to the relay. -/
  | hand (batch : ChangeBatch)
  /-- The caller collects a change to the metadata. -/
  | collect (w : MetadataWrite)
  /-- Something is done to the store from outside. -/
  | store (f : Store → Store)
  /-- Something is done to the processor from outside. -/
  | processor (f : π → π)

namespace Move

/-- Makes a move on a device whose processor is overheard. -/
def run : Move π β → Device (Overheard π) → Device (Overheard π)
  | .call c, d => (c.run d).2
  | .stop, d => ((Device.stopSync false).perform d).2
  | .hand batch, d => d.relay batch
  | .collect w, d => { d with pending := d.pending.push w }
  | .store f, d => d.withStore (f d.store)
  | .processor f, d => { d with processor := { d.processor with processor := f d.processor.processor } }

/-- What happens in a move. -/
def log : Move π β → Device (Overheard π) → List (Incident (Overheard π))
  | .call (.merge changes), d => d.batchLog .remote (body (Merge.work changes)) fun _ => []
  | .call (.apply changes), d => d.batchLog .remote (body (Apply.work changes)) fun _ => []
  | .call .forget, d => d.batchLog .remote (body forgetMetadata) fun _ => []
  | .call (.write w), d => d.batchLog .device (w.run []) (w.log [])
  | .hand batch, d => [.handed batch d]
  | .stop, _ => []
  | .collect _, _ => []
  | .store _, _ => []
  | .processor _, _ => []

/-- Makes moves, one after another. -/
def runAll (ms : List (Move π β)) (d : Device (Overheard π)) : Device (Overheard π) :=
  ms.foldl (fun d m => m.run d) d

/-- What happens in a run. -/
def logAll : List (Move π β) → Device (Overheard π) → List (Incident (Overheard π))
  | [], _ => []
  | m :: ms, d => m.log d ++ logAll ms (m.run d)

end Move

/-! ## 3. What is entered -/

/-- What has been measured between two devices, and what the processor was told, agree with the statistics
and with what has happened. -/
structure Entered (log : List (Incident (Overheard π))) (ms : List Measurement)
    (calls : List ProcessorCall) (d d' : Device (Overheard π)) : Prop where
  metrics : d'.metrics = d.metrics ++ ms
  heard : d'.processor.heard = d.processor.heard ++ calls
  /-- The bridge counts what is measured. -/
  stats : d'.bridge = d.bridge.map fun b => { b with stats := b.stats.noting ms }
  /-- The size of each committed batch is measured. -/
  sizes : (values .batchSize ms).length = total .batchCommitted ms
  /-- Each batch that began was committed or rolled back. -/
  begun : total .batchCommitted ms + total .batchRolledBack ms = Incident.sum Incident.begins log
  skipped : total .relaySkipped ms = Incident.sum Incident.skips log
  relayed : total .relayPut ms + total .relayDelete ms = Incident.sum Incident.relays log
  reported : calls.filterMap ProcessorCall.error? = log.filterMap Incident.reported?

/-- All of this agrees. -/
def Agree (log : List (Incident (Overheard π))) (d d' : Device (Overheard π)) : Prop :=
  ∃ ms calls, Entered log ms calls d d'

namespace Agree

variable {d d' d'' : Device (Overheard π)} {log log' : List (Incident (Overheard π))}

omit [Processor π] in
theorem bridge_noting_nil (d : Device (Overheard π)) :
    d.bridge = d.bridge.map fun b => { b with stats := b.stats.noting [] } := by
  cases d.bridge with
  | none => rfl
  | some b => rw [Option.map_some, Stats.noting_nil]

/-- Nothing is measured. -/
theorem silent {calls : List ProcessorCall} (hmetrics : d'.metrics = d.metrics)
    (hheard : d'.processor.heard = d.processor.heard ++ calls) (hbridge : d'.bridge = d.bridge)
    (hcalls : ∀ c ∈ calls, c.error? = none) : Agree [] d d' := by
  refine ⟨[], calls, ?_, hheard, ?_, rfl, rfl, rfl, rfl, List.filterMap_eq_nil_iff.2 hcalls⟩
  · rw [hmetrics, List.append_nil]
  · exact hbridge.trans (bridge_noting_nil d)

theorem same (hmetrics : d'.metrics = d.metrics) (hprocessor : d'.processor.heard = d.processor.heard)
    (hbridge : d'.bridge = d.bridge) : Agree [] d d' :=
  silent hmetrics (hprocessor.trans (List.append_nil _).symm) hbridge (List.forall_mem_nil _)

/-- Between the devices lies something of which nothing is entered. -/
theorem after (h : Agree log d' d'') (hmetrics : d'.metrics = d.metrics)
    (hheard : d'.processor.heard = d.processor.heard) (hbridge : d'.bridge = d.bridge) :
    Agree log d d'' := by
  obtain ⟨ms, calls, h⟩ := h
  refine ⟨ms, calls, ?_, ?_, ?_, h.sizes, h.begun, h.skipped, h.relayed, h.reported⟩
  · rw [h.metrics, hmetrics]
  · rw [h.heard, hheard]
  · rw [h.stats, hbridge]

theorem before (h : Agree log d d') (hmetrics : d''.metrics = d'.metrics)
    (hheard : d''.processor.heard = d'.processor.heard) (hbridge : d''.bridge = d'.bridge) :
    Agree log d d'' := by
  obtain ⟨ms, calls, h⟩ := h
  exact ⟨ms, calls, hmetrics.trans h.metrics, hheard.trans h.heard, hbridge.trans h.stats, h.sizes,
    h.begun, h.skipped, h.relayed, h.reported⟩

theorem trans (h : Agree log d d') (h' : Agree log' d' d'') : Agree (log ++ log') d d'' := by
  obtain ⟨ms, calls, h⟩ := h
  obtain ⟨ms', calls', h'⟩ := h'
  have hbegun := h.begun
  have hbegun' := h'.begun
  have hrelayed := h.relayed
  have hrelayed' := h'.relayed
  refine ⟨ms ++ ms', calls ++ calls', ?_, ?_, ?_, ?_, ?_, ?_, ?_, ?_⟩
  · rw [h'.metrics, h.metrics, List.append_assoc]
  · rw [h'.heard, h.heard, List.append_assoc]
  · rw [h'.stats, h.stats, Option.map_map]
    simp only [Function.comp_def, Stats.noting_append]
  · rw [values_append, List.length_append, h.sizes, h'.sizes, total_append]
  · rw [total_append, total_append, Incident.sum_append]
    omega
  · rw [total_append, h.skipped, h'.skipped, Incident.sum_append]
  · rw [total_append, total_append, Incident.sum_append]
    omega
  · rw [List.filterMap_append, List.filterMap_append, h.reported, h'.reported]

theorem trans_nil (h : Agree log d d') (h' : Agree [] d' d'') : Agree log d d'' := by
  have hall := h.trans h'
  rwa [List.append_nil] at hall

/-- When the beginning of a batch is entered is of no account. -/
theorem began_first (h : Agree (log ++ [.began]) d d') : Agree (.began :: log) d d' := by
  obtain ⟨ms, calls, hm, hc, hstats, hsizes, hbegun, hskipped, hrelayed, hreported⟩ := h
  refine ⟨ms, calls, hm, hc, hstats, hsizes, ?_, ?_, ?_, ?_⟩
  · rw [hbegun, Incident.sum_append, Nat.add_comm]
    rfl
  · rw [hskipped, Incident.sum_append, Nat.add_comm]
    rfl
  · rw [hrelayed, Incident.sum_append, Nat.add_comm]
    rfl
  · rw [hreported, List.filterMap_append, List.filterMap_cons]
    exact List.append_nil _

end Agree

/-! ## 4. The relay -/

namespace Device

/-- Announcing counts every change as put or as deleted. -/
theorem count_announce {cs : List LocalChange} {s s' : Scope π} {n : Nat × Nat}
    (h : (announce cs).perform s = (.ok n, s')) : n.1 + n.2 = cs.length := by
  induction cs generalizing s s' n with
  | nil =>
    cases h
    rfl
  | cons c cs ih =>
    rw [announce_cons] at h
    obtain ⟨t, htell⟩ : ∃ t, (Work.tell c.call.deliver).perform s = (.ok (), t) := ⟨_, rfl⟩
    obtain ⟨m, s'', hannounce, -⟩ := announce_ok cs t
    have hrest := ih hannounce
    rw [bind_of_ok htell, bind_of_ok hannounce] at h
    cases h
    rw [List.length_cons]
    split
    · omega
    · omega

/-- Forwarding counts and measures the changes if it succeeds, and nothing if it fails. -/
theorem forward_counts (batch : ChangeBatch) (d : Device π) :
    (∃ e, ((forward batch).perform d).1 = .error e ∧
      ((forward batch).perform d).2.metrics = d.metrics ∧
      ((forward batch).perform d).2.bridge = d.bridge) ∨
    (∃ puts deletes, ((forward batch).perform d).1 = .ok () ∧ puts + deletes = batch.changes.length ∧
      ((forward batch).perform d).2.metrics =
        d.metrics ++ [⟨.relayPut, puts⟩, ⟨.relayDelete, deletes⟩] ∧
      ((forward batch).perform d).2.bridge =
        (d.tally (Stats.addRelayed (UInt64.ofNat (puts + deletes)))).bridge) := by
  unfold forward
  rcases hbegin : Store.begin.perform d.store with ⟨e | _, s⟩
  · rw [perform_bind, perform_onStore hbegin]
    exact .inl ⟨e, rfl, rfl, rfl⟩
  · obtain ⟨n, s', hannounce, -⟩ := announce_ok batch.changes (d.withStore s).scope
    have hcount := count_announce hannounce
    rw [bind_of_ok (perform_onStore hbegin)]
    simp only [perform_bind, perform_get, hannounce, perform_modify, perform_ofExcept]
    cases hfault : s'.writeFault with
    | some e =>
      rw [bind_of_ok (rollback_anyhow _)]
      exact .inl ⟨e, rfl, rfl, rfl⟩
    | none =>
      rw [perform_bind, onStore_perform]
      rcases (Store.commit.perform ((d.withStore s).putScope s').store).1 with e | _
      · exact .inl ⟨e, rfl, rfl, rfl⟩
      · refine .inr ⟨n.1, n.2, rfl, hcount, ?_, rfl⟩
        show (d.metrics ++ [_]) ++ [_] = _
        rw [List.append_assoc]
        rfl

/-- What is reported is the error that forwarding ends with. -/
theorem reported?_eq (batch : ChangeBatch) (d : Device π) :
    (d.reported? batch).toList = [Incident.handed batch d].filterMap Incident.reported? := by
  rw [List.filterMap_cons, List.filterMap_nil, Incident.reported?, reception, reported?]
  split
  · rcases ((forward batch).perform d).1 with e | _ <;> rfl
  · rfl

end Device

/-- Changes of this device are no errors. -/
theorem LocalChange.error?_call (c : LocalChange) : c.call.error? = none := by
  unfold call
  cases c.kind <;> rfl

/-- What the processor hears of a batch that is handed to the relay. -/
theorem Device.relay_heard (batch : ChangeBatch) (d : Device (Overheard π)) :
    ∃ calls, (d.relay batch).processor.heard = d.processor.heard ++ calls ∧
      calls.filterMap ProcessorCall.error? =
        [Incident.handed batch d].filterMap Incident.reported? := by
  obtain ⟨cs, hcs, hprocessor⟩ := relay_tells batch d
  refine ⟨_, by rw [hprocessor, Overheard.hearAll_heard], ?_⟩
  have hchanges : cs.filterMap ProcessorCall.error? = [] := by
    rcases hcs with rfl | rfl
    · rfl
    · rw [List.filterMap_map, List.filterMap_eq_nil_iff]
      exact fun c _ => c.error?_call
  rw [← reported?_eq, List.filterMap_append, hchanges]
  cases d.reported? batch <;> rfl

/-- **A batch that is handed to the relay is counted as skipped, or its changes are counted as relayed, or
one error is reported.** -/
theorem Agree.relay (batch : ChangeBatch) (d : Device (Overheard π)) :
    Agree [.handed batch d] d (d.relay batch) := by
  obtain ⟨calls, hheard, hreported⟩ := d.relay_heard batch
  by_cases hcond : (batch.isLocal && Processor.isTracking d.processor) = true
  · have hrelay : (d.relay batch).metrics = ((forward batch).perform d).2.metrics ∧
        (d.relay batch).bridge = ((forward batch).perform d).2.bridge := by
      rw [Device.relay, if_pos hcond]
      rcases (forward batch).perform d with ⟨_ | _, _⟩ <;> exact ⟨rfl, rfl⟩
    rcases forward_counts batch d with ⟨e, hres, hmetrics, hbridge⟩ |
      ⟨puts, deletes, hres, hcount, hmetrics, hbridge⟩
    · have hreception : d.reception batch = .reported e := by rw [reception, if_pos hcond, hres]
      refine ⟨[], calls, ?_, hheard, ?_, rfl, rfl, ?_, ?_, hreported⟩
      · rw [hrelay.1, hmetrics, List.append_nil]
      · exact (hrelay.2.trans hbridge).trans (bridge_noting_nil d)
      · simp only [Incident.sum, Incident.skips, hreception]
        rfl
      · simp only [Incident.sum, Incident.relays, hreception]
        rfl
    · have hreception : d.reception batch = .forwarded := by rw [reception, if_pos hcond, hres]
      refine ⟨[⟨.relayPut, puts⟩, ⟨.relayDelete, deletes⟩], calls, hrelay.1.trans hmetrics, hheard, ?_, rfl,
        rfl, ?_, ?_, hreported⟩
      · rw [hrelay.2, hbridge]
        simp only [Stats.noting_relayed]
        rfl
      · simp only [Incident.sum, Incident.skips, hreception]
        rfl
      · simp only [Incident.sum, Incident.relays, hreception, ← hcount]
        simp [total, values]
  · have hreception : d.reception batch = .skipped := by rw [reception, if_neg hcond]
    refine ⟨[⟨.relaySkipped, 1⟩], calls, ?_, hheard, ?_, rfl, rfl, ?_, ?_, hreported⟩
    · rw [Device.relay, if_neg hcond]
      rfl
    · rw [Device.relay, if_neg hcond]
      simp only [Stats.noting_skipped]
      rfl
    · simp only [Incident.sum, Incident.skips, hreception]
      rfl
    · simp only [Incident.sum, Incident.relays, hreception]
      rfl

/-! ## 5. Batches -/

namespace Agree

variable {d : Device (Overheard π)}

/-- Each observer that is the relay is handed the batch. -/
theorem observers (batch : ChangeBatch) (os : List ObserverId) (d : Device (Overheard π)) :
    Agree (handedTo batch os d) d (os.foldl (callObserver batch) d) := by
  induction os generalizing d with
  | nil => exact same rfl rfl rfl
  | cons o os ih =>
    have hone : Agree (if d.bridge.any (·.relay == o) then [.handed batch d] else []) d
        (d.callObserver batch o) := by
      unfold callObserver
      split
      · exact relay batch d
      · exact same rfl rfl rfl
    exact hone.trans (ih _)

theorem told (side : Side) (cs : List LocalChange) (d : Device (Overheard π)) :
    Agree (d.toldLog side cs) d (d.told side cs) := by
  unfold toldLog Device.told
  split
  · exact same rfl rfl rfl
  · rw [notify_eq]
    have hall := observers ⟨side, cs⟩ d.notifier.live { d with notifier := d.notifier.prune }
    have hpruned : Agree _ d _ := hall.after rfl rfl rfl
    exact hpruned.before rfl rfl rfl

/-- A batch is counted and measured when it is committed. -/
theorem settled (cs : List LocalChange) (d : Device (Overheard π)) :
    Agree [.began] d (d.settled .bridge cs) := by
  refine ⟨[⟨.batchCommitted, 1⟩, ⟨.batchSize, cs.length⟩], [], ?_, (List.append_nil _).symm, ?_, rfl, rfl,
    rfl, rfl, rfl⟩
  · show (d.metrics ++ [_]) ++ [_] = _
    rw [List.append_assoc]
    rfl
  · simp only [Stats.noting_committed]
    rfl

/-- A batch is counted and measured when it is rolled back, whether or not the store can do it. -/
theorem abandon (d : Device (Overheard π)) : Agree [.began] d (d.abandon .bridge) := by
  refine ⟨[⟨.batchRolledBack, 1⟩], [], rfl, (List.append_nil _).symm, ?_, rfl, rfl, rfl, rfl, rfl⟩
  simp only [Stats.noting_rolledBack]
  rfl

/-- **Statistics and metrics agree over a batch, if they agree over its body.** -/
theorem batch {body : Device (Overheard π) → Draft β × Device (Overheard π)}
    {inner : Device (Overheard π) → List (Incident (Overheard π))}
    (hbody : ∀ d, Agree (inner d) d (body d).2) (side : Side) (d : Device (Overheard π)) :
    Agree (d.batchLog side body inner) d (d.batch .bridge side body).2 := by
  have hbatched := batched .bridge side body d
  generalize hx : d.batch .bridge side body = x at hbatched ⊢
  obtain ⟨outcome, d'⟩ := x
  have hbegun (s : Store) : Agree (inner (d.withStore s)) d (body (d.withStore s)).2 :=
    (hbody (d.withStore s)).after rfl rfl rfl
  cases hbatched with
  | refused hbegin =>
    rw [batchLog, hbegin]
    exact same rfl rfl rfl
  | @abandoned s e hbegin hfail =>
    have hlog : d.batchLog side body inner = .began :: inner (d.withStore s) := by
      rw [batchLog, hbegin]
      rcases hfail with hfail | ⟨hfail, hcommit⟩
      · simp [hfail]
      · simp [hfail, hcommit]
    rw [hlog]
    exact ((hbegun s).trans (abandon _)).began_first
  | @committed s t hbegin hdone hcommit =>
    have hlog : d.batchLog side body inner = .began :: (inner (d.withStore s) ++
        (((body (d.withStore s)).2.withStore t).settled .bridge (body (d.withStore s)).1.changes).toldLog
          side (body (d.withStore s)).1.changes) := by
      rw [batchLog, hbegin]
      simp only [hdone, hcommit]
    have hstored : Agree _ d ((body (d.withStore s)).2.withStore t) := (hbegun s).before rfl rfl rfl
    rw [hlog]
    exact ((hstored.trans (settled _ _)).began_first).trans (told _ _ _)

/-- **Statistics and metrics agree over a write**, writes within it included. -/
theorem write (w : Write β) (cs : List LocalChange) (d : Device (Overheard π)) :
    Agree (w.log cs d) d (w.run cs d).2 := by
  induction w generalizing cs d with
  | done value failure => exact same rfl rfl rfl
  | edit e next ih => exact (ih _ _ (d.withStore _)).after rfl rfl rfl
  | record? key next ih =>
    rw [Write.run, Write.onStore_of_reads (Store.reads_record? key)]
    exact ih _ cs d
  | find? key next ih =>
    rw [Write.run, Write.onStore_of_reads (Store.reads_find? key)]
    exact ih _ cs d
  | readAll next ih =>
    rw [Write.run, Write.onStore_of_reads Store.reads_readAll]
    exact ih _ cs d
  | changes next ih => exact ih cs cs d
  | writeMetadata m next ih => exact (ih _ cs (d.withStore _)).after rfl rfl rfl
  | rollback next ih => exact (ih _ cs (d.withStore _)).after rfl rfl rfl
  | commit next ih => exact (ih _ cs (d.withStore _)).after rfl rfl rfl
  | nested inner next ihInner ihNext =>
    exact (batch (ihInner []) .device d).trans (ihNext _ cs _)

/-- Work that reports no error is not measured. -/
theorem body {P : ProcessorCall → Prop} {w : Work (Overheard π) α} {d : Device (Overheard π)}
    (hw : Work.Tells P w d.scope) (hP : ∀ c, P c → c.error? = none) :
    Agree [] d (Device.body w d).2 := by
  obtain ⟨calls, last, hheard, hassign, -⟩ := hw
  refine silent rfl hheard rfl fun c hc => ?_
  cases hassigned : c.assigned? with
  | none => exact hP c (hassign.others c hc hassigned)
  | some key =>
    cases c with
    | report e => cases hassigned
    | _ => rfl

end Agree

/-! ## 6. Runs -/

/-- Metrics that have no part in the statistics. -/
def Metric.isAside : Metric → Bool
  | .mergeMatched | .mergeRemoteOnly | .mergeLocalOnly | .mergeDuration => true
  | .applyFailed | .applyDuration => true
  | _ => false

namespace Agree

theorem aside {metric : Metric} (h : metric.isAside = true) (value : Nat) (d : Device (Overheard π)) :
    Agree [] d (d.measure metric value) := by
  have hvalues (other : Metric) (hother : other.isAside = false) :
      values other [⟨metric, value⟩] = [] := by
    have hne : metric ≠ other := fun he => by
      rw [he, hother] at h
      cases h
    simp [values, hne]
  have htotal (other : Metric) (hother : other.isAside = false) :
      total other [⟨metric, value⟩] = 0 := by
    rw [total, hvalues other hother]
    rfl
  have hnoting (s : Stats) : s.noting [⟨metric, value⟩] = s := by
    simp [Stats.noting, htotal .batchCommitted rfl, htotal .batchRolledBack rfl,
      htotal .applyChanges rfl, htotal .relayPut rfl, htotal .relayDelete rfl,
      htotal .relaySkipped rfl]
  refine ⟨[⟨metric, value⟩], [], rfl, (List.append_nil _).symm, ?_, ?_, ?_, ?_, ?_, rfl⟩
  · simp only [hnoting]
    show d.bridge = _
    cases d.bridge <;> rfl
  · rw [hvalues _ rfl, htotal _ rfl]
    rfl
  · rw [htotal _ rfl, htotal _ rfl]
    rfl
  · rw [htotal _ rfl]
    rfl
  · rw [htotal _ rfl, htotal _ rfl]
    rfl

/-- Applied changes are counted and measured. -/
theorem applied (n : Nat) (d : Device (Overheard π)) :
    Agree [] d ((d.measure .applyDuration 0 |>.measure .applyChanges n).tally
      (Stats.addApplied (UInt64.ofNat n))) := by
  refine ⟨[⟨.applyDuration, 0⟩, ⟨.applyChanges, n⟩], [], ?_, (List.append_nil _).symm, ?_, rfl, rfl,
    rfl, rfl, rfl⟩
  · show (d.metrics ++ [_]) ++ [_] = _
    rw [List.append_assoc]
    rfl
  · simp only [Stats.noting_applied]
    rfl

theorem merge (changes : List RemoteChange) (d : Device (Overheard π)) :
    Agree (d.batchLog .remote (Device.body (Merge.work changes)) fun _ => []) d
      ((Device.merge changes).perform d).2 := by
  have hbatch := batch (fun d => body (Merge.tells_merge (s := d.scope) rfl changes)
    fun _ ⟨_, _, _, hc⟩ => hc ▸ rfl) .remote d
  rw [merge_perform]
  split
  · exact hbatch.trans_nil (aside rfl _ _)
  · exact (((hbatch.trans_nil (aside rfl _ _)).trans_nil (aside rfl _ _)).trans_nil
      (aside rfl _ _)).trans_nil (aside rfl _ _)

theorem apply (changes : List RemoteChange) (d : Device (Overheard π)) :
    Agree (d.batchLog .remote (Device.body (Apply.work changes)) fun _ => []) d
      ((Device.apply changes).perform d).2 := by
  have hbatch := batch (fun d => body (Work.tells_apply (s := d.scope) changes) nofun) .remote d
  rw [apply_perform]
  split
  · exact (hbatch.trans_nil (aside rfl _ _)).trans_nil (aside rfl _ _)
  · exact hbatch.trans_nil (applied _ _)

theorem forget (d : Device (Overheard π)) :
    Agree (d.batchLog .remote (Device.body forgetMetadata) fun _ => []) d
      ((Device.stopSync true).perform d).2 := by
  rw [stopSync_perform]
  exact batch (fun d => body (Work.tells_forget (s := d.scope)) nofun) .remote d

/-- **Statistics and metrics agree over every move.** -/
theorem move (m : Move π β) (d : Device (Overheard π)) : Agree (m.log d) d (m.run d) := by
  cases m with
  | call c =>
    cases c with
    | merge changes =>
      rw [Move.run, Call.run, perform_map]
      exact merge changes d
    | apply changes =>
      rw [Move.run, Call.run, perform_map]
      exact apply changes d
    | forget => exact forget d
    | write w => exact batch (write w []) .device d
  | hand b => exact relay b d
  | stop | collect | store | processor => exact same rfl rfl rfl

theorem moves (ms : List (Move π β)) (d : Device (Overheard π)) :
    Agree (Move.logAll ms d) d (Move.runAll ms d) := by
  induction ms generalizing d with
  | nil => exact same rfl rfl rfl
  | cons m ms ih => exact (move m d).trans (ih (m.run d))

end Agree

/-- What handing a batch to the relay brings: so much is counted as skipped and as relayed, and these errors
are reported. -/
structure Brought (batch : ChangeBatch) (d : Device (Overheard π)) (skips relays : Nat)
    (errors : List SyncError) : Prop where
  counted : (d.relay batch).relayed =
    d.relayed.map fun c => (c.1 + UInt64.ofNat relays, c.2 + UInt64.ofNat skips)
  reported : ∃ calls, (d.relay batch).processor.heard = d.processor.heard ++ calls ∧
    calls.filterMap ProcessorCall.error? = errors

theorem Brought.of_agree {batch : ChangeBatch} {d : Device (Overheard π)}
    (h : Agree [.handed batch d] d (d.relay batch)) :
    Brought batch d (Incident.handed batch d).skips (Incident.handed batch d).relays
      (Incident.handed batch d).reported?.toList := by
  obtain ⟨ms, calls, h⟩ := h
  refine ⟨?_, calls, h.heard, h.reported.trans ?_⟩
  · have hskipped : total .relaySkipped ms = (Incident.handed batch d).skips := h.skipped
    have hrelayed : total .relayPut ms + total .relayDelete ms = (Incident.handed batch d).relays :=
      h.relayed
    rw [Device.relayed, h.stats, Device.relayed, Option.map_map, Option.map_map, ← hskipped, ← hrelayed]
    rfl
  · rw [List.filterMap_cons, List.filterMap_nil]
    cases (Incident.handed batch d).reported? <;> rfl

/-- **Whatever happens, statistics and metrics agree.** Over every run, the statistics of the bridge grow by
the sums of what is measured, modulo 2⁶⁴; each batch that began is committed or rolled back; and each batch
that is handed to the relay is counted as skipped, or its changes are counted as relayed, or one error is
reported, and only one of this. -/
theorem statistics_agree (ms : List (Move π β)) (d : Device (Overheard π)) :
    Agree (Move.logAll ms d) d (Move.runAll ms d) ∧
      ∀ batch (d : Device (Overheard π)),
        Brought batch d 1 0 [] ∨ Brought batch d 0 batch.changes.length [] ∨
          ∃ e, Brought batch d 0 0 [e] := by
  refine ⟨.moves ms d, fun batch d => ?_⟩
  have hbrought := Brought.of_agree (.relay batch d)
  rw [Incident.skips, Incident.relays, Incident.reported?] at hbrought
  cases hreception : d.reception batch <;> rw [hreception] at hbrought
  case skipped => exact .inl hbrought
  case forwarded => exact .inr (.inl hbrought)
  case reported e => exact .inr (.inr ⟨e, hbrought⟩)

/-- A write that adds a record. -/
def Write.adding (realm : String) : Write Unit := .edit (.add (.sample realm)) fun _ => .done () none

/-- A write is relayed, one is skipped while the processor is not interested, one cannot be committed. -/
example : (Move.runAll [.call (.write (.adding "a")), .processor fun r => { r with tracking := false },
      .call (.write (.adding "b")), .store (Store.tell (.table { commits := true })),
      .call (.write (.adding "c"))] Turn.listening).bridge.map (·.stats) =
    some { committed := 2, rolledBack := 1, relayed := 1, relaySkipped := 1 } := rfl

end CredentialSync
