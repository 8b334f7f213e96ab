import CredentialSync.Metadata.Pending
import CredentialSync.Proofs.SortedMap

/-!
# Collected metadata is the last change to each cell

Metadata is made of cells: the model state, and the entry of each storage key. A collection of changes
forgets their order and keeps the last change to each cell (`get?_foldl_push`, `modelState_foldl_push`).

* What is collected is written out so that collecting it again gives the same (`collect_writes`).
* `collect` therefore stands for all lists of changes that end alike in each cell, and moving a
  collection is the same as making its changes one by one (`transfer_collect`).
* `Pending.replay` says what the last change makes of a cell.
-/

namespace CredentialSync

/-! ## 1. Cells -/

/-- The cell that is changed: the entry of a storage key, or the model state. -/
def MetadataWrite.cell : MetadataWrite → Option StorageKey
  | .setState _ | .clearState => none
  | .set key _ | .clear key => some key

/-- The contents of a cell behind the last change to it: of `value a` if it was set to `a`, of `blank`
if it was cleared, and as before if there was no change. -/
def Pending.replay {α β : Type} (value : α → β) (blank : β) : Option (Pending α) → β → β
  | none, old => old
  | some (.set a), _ => value a
  | some .clear, _ => blank

/-- Of two changes the later one counts. -/
theorem Pending.replay_or {α β : Type} {value : α → β} {blank old : β} (p q : Option (Pending α)) :
    replay value blank (p.or q) old = replay value blank p (replay value blank q old) := by
  cases p with
  | none => rfl
  | some p => cases p <;> rfl

namespace PendingMetadata

/-- What is collected of some changes, made in order. -/
def collect (ws : List MetadataWrite) : PendingMetadata := ws.foldl push {}

/-! ## 2. The last change counts -/

theorem modelState_push (p : PendingMetadata) (w : MetadataWrite) :
    (p.push w).modelState = (({} : PendingMetadata).push w).modelState.or p.modelState := by
  cases w <;> rfl

theorem get?_push (p : PendingMetadata) (w : MetadataWrite) (key : StorageKey) :
    (p.push w).entities.get? key =
      ((({} : PendingMetadata).push w).entities.get? key).or (p.entities.get? key) := by
  cases w with
  | setState | clearState => rfl
  | set key' m | clear key' =>
    simp only [push, SortedMap.get?_insert]
    split <;> rfl

theorem modelState_foldl_push (ws : List MetadataWrite) (p : PendingMetadata) :
    (ws.foldl push p).modelState = (collect ws).modelState.or p.modelState := by
  induction ws generalizing p with
  | nil => rfl
  | cons w ws ih =>
    rw [collect, List.foldl_cons, List.foldl_cons, ih, ih (({} : PendingMetadata).push w),
      modelState_push p w, Option.or_assoc]

/-- **Of the changes to a storage key the last one is remembered**, and what was remembered before if
there is none. -/
theorem get?_foldl_push (ws : List MetadataWrite) (p : PendingMetadata) (key : StorageKey) :
    (ws.foldl push p).entities.get? key =
      ((collect ws).entities.get? key).or (p.entities.get? key) := by
  induction ws generalizing p with
  | nil => rfl
  | cons w ws ih =>
    rw [collect, List.foldl_cons, List.foldl_cons, ih, ih (({} : PendingMetadata).push w),
      get?_push p w, Option.or_assoc]

theorem modelState_collect_cons (w : MetadataWrite) (ws : List MetadataWrite) :
    (collect (w :: ws)).modelState =
      (collect ws).modelState.or (({} : PendingMetadata).push w).modelState :=
  modelState_foldl_push ws _

theorem get?_collect_cons (w : MetadataWrite) (ws : List MetadataWrite) (key : StorageKey) :
    (collect (w :: ws)).entities.get? key =
      ((collect ws).entities.get? key).or ((({} : PendingMetadata).push w).entities.get? key) :=
  get?_foldl_push ws _ key

/-! ## 3. Writing out and collecting again -/

@[ext] theorem ext {p q : PendingMetadata} (hstate : p.modelState = q.modelState)
    (hentities : ∀ key, p.entities.get? key = q.entities.get? key) : p = q := by
  obtain ⟨state, entities⟩ := p
  obtain rfl : state = q.modelState := hstate
  obtain rfl : entities = q.entities := SortedMap.ext_get? hentities
  rfl

theorem push_stateWrite (p : PendingMetadata) (c : Pending ModelState) :
    p.push (stateWrite c) = { p with modelState := some c } := by
  cases c <;> rfl

theorem push_entityWrite (p : PendingMetadata) (e : StorageKey × Pending EntityMetadata) :
    p.push (entityWrite e) = { p with entities := p.entities.insert e.1 e.2 } := by
  obtain ⟨key, _ | _⟩ := e <;> rfl

theorem foldl_push_entityWrite (es : List (StorageKey × Pending EntityMetadata))
    (p : PendingMetadata) :
    (es.map entityWrite).foldl push p =
      { p with entities := es.foldl (fun m e => m.insert e.1 e.2) p.entities } := by
  induction es generalizing p with
  | nil => rfl
  | cons e es ih =>
    rw [List.map_cons, List.foldl_cons, push_entityWrite, ih]
    rfl

/-- **What is collected is collected again from what is written out.** -/
theorem collect_writes (p : PendingMetadata) : collect p.writes = p := by
  have hstate : (p.modelState.map stateWrite).toList.foldl push {} = { modelState := p.modelState } := by
    cases p.modelState with
    | none => rfl
    | some c => exact push_stateWrite {} c
  rw [collect, writes, List.foldl_append, hstate, foldl_push_entityWrite]
  exact congrArg (PendingMetadata.mk p.modelState) (SortedMap.foldl_insert_toList p.entities)

/-- Changes that are collected alike do alike to every other collection. -/
theorem foldl_push_congr {ws ws' : List MetadataWrite} (h : collect ws = collect ws')
    (p : PendingMetadata) : ws.foldl push p = ws'.foldl push p := by
  apply ext
  · rw [modelState_foldl_push, modelState_foldl_push, h]
  · intro key
    rw [get?_foldl_push, get?_foldl_push, h]

/-- **Moving a collection makes its changes one by one.** -/
theorem transfer_collect (ops : List MetadataWrite) (target : PendingMetadata) :
    (collect ops).transfer target = ({}, ops.foldl push target) := by
  rw [transfer, foldl_push_congr (collect_writes (collect ops))]

/-! ## 4. The cells that are changed -/

theorem isSome_modelState_push (w : MetadataWrite) :
    (({} : PendingMetadata).push w).modelState.isSome = true ↔ w.cell = none := by
  cases w <;> simp [push, MetadataWrite.cell]

theorem isSome_get?_push (w : MetadataWrite) (key : StorageKey) :
    ((({} : PendingMetadata).push w).entities.get? key).isSome = true ↔ w.cell = some key := by
  cases w with
  | setState | clearState => simp [push, MetadataWrite.cell]
  | set key' m | clear key' =>
    simp only [push, SortedMap.get?_insert, MetadataWrite.cell, Option.some.injEq]
    split <;> simp_all

/-- The model state is remembered exactly if it was changed. -/
theorem isSome_modelState_collect (ws : List MetadataWrite) :
    (collect ws).modelState.isSome = true ↔ ∃ w ∈ ws, w.cell = none := by
  induction ws with
  | nil => simp [collect]
  | cons w ws ih =>
    rw [modelState_collect_cons, Option.isSome_or, Bool.or_eq_true, ih, isSome_modelState_push,
      or_comm]
    simp only [List.mem_cons, exists_eq_or_imp]

/-- A storage key is remembered exactly if it was changed. -/
theorem isSome_get?_collect (ws : List MetadataWrite) (key : StorageKey) :
    ((collect ws).entities.get? key).isSome = true ↔ ∃ w ∈ ws, w.cell = some key := by
  induction ws with
  | nil => simp [collect]
  | cons w ws ih =>
    rw [get?_collect_cons, Option.isSome_or, Bool.or_eq_true, ih, isSome_get?_push,
      or_comm]
    simp only [List.mem_cons, exists_eq_or_imp]

/-- Changes that are collected alike change the same cells. -/
theorem exists_cell_congr {ws ws' : List MetadataWrite} (h : collect ws = collect ws')
    (cell : Option StorageKey) : (∃ w ∈ ws, w.cell = cell) ↔ ∃ w ∈ ws', w.cell = cell := by
  cases cell with
  | none => rw [← isSome_modelState_collect, ← isSome_modelState_collect, h]
  | some key => rw [← isSome_get?_collect, ← isSome_get?_collect, h]

end PendingMetadata

end CredentialSync
