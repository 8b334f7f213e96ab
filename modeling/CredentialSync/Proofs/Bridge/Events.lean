import CredentialSync.Proofs.Bridge.Scope

/-!
# What work does, step by step

A `Work.Event` is something that work does besides editing records: it asks for metadata, or it tells
the processor something, which may answer with metadata. `Work.Did` collects the edits and the
events that lead from one scope to another.

There is one lemma for each step that succeeds (`did_edit`, `did_write`, `did_tell`, ...). An edit reports
what the edit of the vault reports (`did_reported`), unless a table is told to be silent about it.
-/

namespace CredentialSync

open Attempt

/-! ## 1. Events -/

/-- Something that work does besides editing records. -/
inductive Work.Event where
  | write (ws : List MetadataWrite)
  | call (c : ProcessorCall)

namespace Work.Event

/-- The processor and the metadata asked for after an event. -/
def hear {π : Type} [Processor π] (at_ : π × List MetadataWrite) 
    : Event → π × List MetadataWrite
  | .write ws => (at_.1, at_.2 ++ ws)
  | .call c => ((c.deliver at_.1).2, at_.2 ++ (c.deliver at_.1).1)

/-- What the processor is told. -/
def call? : Event → Option ProcessorCall
  | .write _ => none
  | .call c => some c

end Work.Event

/-- The storage key that a processor is told for an entity. -/
def ProcessorCall.assigned? : ProcessorCall → Option StorageKey
  | .assignKey key _ => some key
  | _ => none

/-- The processor after it was told some things. -/
def ProcessorCall.hearAll {π : Type} [Processor π] (cs : List ProcessorCall) (p : π) : π :=
  cs.foldl (fun p c => (c.deliver p).2) p

variable {π : Type} [Processor π] {α β : Type}

/-- The processor hears what the events tell it. -/
theorem Work.Event.processor_hear (es : List Event) (p : π) (ws : List MetadataWrite) :
    (es.foldl hear (p, ws)).1 = ProcessorCall.hearAll (es.filterMap call?) p := by
  induction es generalizing p ws with
  | nil => rfl
  | cons e es ih =>
    cases e with
    | write vs => exact ih p (ws ++ vs)
    | call c => exact ih (c.deliver p).2 (ws ++ (c.deliver p).1)

namespace Work

/-! ## 2. Steps that succeed -/

/-- Some edits and events lead from one scope to the other. -/
structure Did (s : Scope π) (changes : List LocalChange) (events : List Event) (s' : Scope π) :
    Prop where
  steady : s.store.Steady s'.store
  changes : s'.changes = s.changes ++ changes
  heard : (s'.processor, s'.asked) = events.foldl Event.hear (s.processor, s.asked)
  pending : s'.pending = s.pending

theorem Did.refl (s : Scope π) : Did s [] [] s :=
  ⟨.refl _, (List.append_nil _).symm, rfl, rfl⟩

theorem Did.trans {s t u : Scope π} {cs ds : List LocalChange} {es fs : List Event}
    (h : Did s cs es t) (h' : Did t ds fs u) : Did s (cs ++ ds) (es ++ fs) u := by
  refine ⟨h.steady.trans h'.steady, ?_, ?_, h'.pending.trans h.pending⟩
  · rw [h'.changes, h.changes, List.append_assoc]
  · rw [h'.heard, h.heard, List.foldl_append]

/-- The collected metadata plays no part in it. -/
theorem Did.setPending {s s' : Scope π} {cs : List LocalChange} {es : List Event}
    (h : Did s cs es s') (p : PendingMetadata) :
    Did { s with pending := p } cs es { s' with pending := p } :=
  ⟨h.steady, h.changes, h.heard, rfl⟩

omit [Processor π] in
theorem writeOne_keeps (s : Scope π) (w : MetadataWrite) :
    s.store.Steady (writeOne s w).store ∧ (writeOne s w).store.vault = s.store.vault ∧
      (writeOne s w).processor = s.processor ∧ (writeOne s w).pending = s.pending ∧
      (writeOne s w).changes = s.changes ∧ (writeOne s w).asked = s.asked ++ [w] := by
  rcases writeOne_cases s w with ⟨e, -, heq⟩ | ⟨-, t, hw, heq⟩ | ⟨e, t, hw, heq⟩ <;> rw [heq]
  · exact ⟨.refl _, rfl, rfl, rfl, rfl, rfl⟩
  · obtain ⟨hwritten, -, hsteady⟩ := Store.written hw
    cases hwritten with
    | done _ hvault => exact ⟨hsteady, hvault, rfl, rfl, rfl, rfl⟩
  · obtain ⟨hwritten, -, hsteady⟩ := Store.written hw
    cases hwritten with
    | failed hcontent => exact ⟨hsteady, Store.vault_congr hcontent, rfl, rfl, rfl, rfl⟩

omit [Processor π] in
theorem writes_keep (ws : List MetadataWrite) (s : Scope π) :
    s.store.Steady (ws.foldl writeOne s).store ∧
      (ws.foldl writeOne s).store.vault = s.store.vault ∧
      (ws.foldl writeOne s).processor = s.processor ∧
      (ws.foldl writeOne s).pending = s.pending ∧ (ws.foldl writeOne s).changes = s.changes ∧
      (ws.foldl writeOne s).asked = s.asked ++ ws := by
  induction ws generalizing s with
  | nil => exact ⟨.refl _, rfl, rfl, rfl, rfl, (List.append_nil _).symm⟩
  | cons w ws ih =>
    obtain ⟨h₁, h₂, h₃, h₄, h₅, h₆⟩ := writeOne_keeps s w
    obtain ⟨k₁, k₂, k₃, k₄, k₅, k₆⟩ := ih (writeOne s w)
    refine ⟨h₁.trans k₁, k₂.trans h₂, k₃.trans h₃, k₄.trans h₄, k₅.trans h₅, ?_⟩
    rw [List.foldl_cons, k₆, h₆, List.append_assoc]
    rfl

/-- Asking for metadata. -/
theorem did_writes (ws : List MetadataWrite) (s : Scope π) :
    Did s [] [.write ws] (ws.foldl writeOne s) ∧
      (ws.foldl writeOne s).store.vault = s.store.vault := by
  obtain ⟨hsteady, hvault, hprocessor, hpending, hchanges, hasked⟩ := writes_keep ws s
  refine ⟨⟨hsteady, ?_, ?_, hpending⟩, hvault⟩
  · rw [hchanges, List.append_nil]
  · rw [hprocessor, hasked]
    rfl

theorem did_write {ws : List MetadataWrite} {s s' : Scope π} {res : Except SyncError Unit}
    (h : (write ws).perform s = (res, s')) :
    Did s [] [.write ws] s' ∧ s'.store.vault = s.store.vault := by
  cases h
  exact did_writes ws s

/-- Telling the processor something. -/
theorem did_tell {c : ProcessorCall} {s s' : Scope π} {res : Except SyncError Unit}
    (h : (tell c.deliver).perform s = (res, s')) :
    Did s [] [.call c] s' ∧ s'.store.vault = s.store.vault := by
  rw [perform_tell] at h
  cases h
  obtain ⟨hsteady, hvault, hprocessor, hpending, hchanges, hasked⟩ :=
    writes_keep (c.deliver s.processor).1 { s with processor := (c.deliver s.processor).2 }
  refine ⟨⟨hsteady, ?_, ?_, hpending⟩, hvault⟩
  · rw [hchanges, List.append_nil]
  · rw [hprocessor, hasked]
    rfl

/-- An edit that succeeds. -/
theorem did_edit {e : Edit} {s s' : Scope π} {cs : List LocalChange}
    (h : (change e.attempt).perform s = (.ok cs, s')) :
    Did s cs [] s' ∧ ∃ ds, s.store.vault.edit s.store.replaces e = some (ds, s'.store.vault) ∧
      cs = if s.store.silences e then [] else ds := by
  unfold change at h
  obtain ⟨made, t, honStore, hrest⟩ := ok_of_bind h
  cases hrest
  rw [onStore, perform_within] at honStore
  rcases hres : e.attempt.perform s.store with ⟨res, t'⟩
  rw [hres] at honStore
  cases honStore
  obtain ⟨hedited, hsteady⟩ := Store.edited hres
  cases hedited with
  | done hedit hreport hsaved hmetadata =>
    exact ⟨⟨hsteady, rfl, rfl, rfl⟩, _, hedit, hreport⟩

/-- An edit that succeeds and is reported. -/
theorem did_reported {e : Edit} {s s' : Scope π} {cs : List LocalChange}
    (hreports : s.store.silences e = false) (h : (change e.attempt).perform s = (.ok cs, s')) :
    Did s cs [] s' ∧ s.store.vault.edit s.store.replaces e = some (cs, s'.store.vault) := by
  obtain ⟨hdid, ds, hedit, hcs⟩ := did_edit h
  rw [hreports, if_neg Bool.false_ne_true] at hcs
  exact ⟨hdid, hcs ▸ hedit⟩

/-- An edit that succeeds on a store that is not told to fail. -/
theorem did_change {e : Edit} {s s' : Scope π} {cs : List LocalChange} (hq : s.store.Quiet)
    (h : (change e.attempt).perform s = (.ok cs, s')) :
    Did s cs [] s' ∧ s.store.vault.edit s.store.replaces e = some (cs, s'.store.vault) :=
  did_reported (hq.reports e) h

omit [Processor π] in
/-- Looking at the store. -/
theorem did_read {a : Attempt Store α} (hreads : a.Reads) {s s' : Scope π} {r : α}
    (h : (onStore a).perform s = (.ok r, s')) : s' = s ∧ a.perform s.store = (.ok r, s.store) := by
  obtain rfl := (reads_onStore hreads).state h
  rw [onStore, perform_within] at h
  exact ⟨rfl, Prod.ext (Prod.mk.inj h).1 (hreads s'.store)⟩

end Work

end CredentialSync
