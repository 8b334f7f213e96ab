import CredentialSync.Proofs.Metadata.Pending
import CredentialSync.Proofs.Store.Ledger
import CredentialSync.Proofs.Store.Switches
import CredentialSync.Proofs.Tracking.Tracks

/-!
# The cells of stored metadata

Stored metadata is looked at cell by cell: the model state, and the entries of each storage key. A
database keeps all entries in one list in which an entry that is set moves to the end, so two lists of
writes can lead to different lists with the same cells (`StoredMetadata.Same`).

* What some writes leave in a cell is settled by the last write to it (`foldl_replay_state`,
  `foldl_replay_entity`), so writes that are collected alike leave the same cells
  (`StoredMetadata.same_foldl`).
* What is read is settled by the cells (`StoredMetadata.Same.shows_iff`).
* Whether a write is carried out depends on the store and on the kind of cell (`Store.takes_iff`), so
  all writes are carried out if others are that are collected alike (`Store.forall_takes_congr`).
-/

namespace CredentialSync

open Attempt PendingMetadata

/-! ## 1. Cells behind a list of writes -/

section Replay

variable {σ β : Type} {step : σ → MetadataWrite → σ} {f : σ → β}

/-- If each write sets what is looked at as a write to the model state does, so does a list. -/
theorem foldl_replay_state {value : ModelState → β} {blank : β}
    (hstep : ∀ s w, f (step s w) =
      Pending.replay value blank (({} : PendingMetadata).push w).modelState (f s))
    (ws : List MetadataWrite) (s : σ) :
    f (ws.foldl step s) = Pending.replay value blank (collect ws).modelState (f s) := by
  induction ws generalizing s with
  | nil => rfl
  | cons w ws ih => rw [List.foldl_cons, ih, hstep, modelState_collect_cons, Pending.replay_or]

/-- If each write sets what is looked at as a write to the storage key does, so does a list. -/
theorem foldl_replay_entity {value : EntityMetadata → β} {blank : β} {key : StorageKey}
    (hstep : ∀ s w, f (step s w) =
      Pending.replay value blank ((({} : PendingMetadata).push w).entities.get? key) (f s))
    (ws : List MetadataWrite) (s : σ) :
    f (ws.foldl step s) =
      Pending.replay value blank ((collect ws).entities.get? key) (f s) := by
  induction ws generalizing s with
  | nil => rfl
  | cons w ws ih => rw [List.foldl_cons, ih, hstep, get?_collect_cons, Pending.replay_or]

end Replay

/-! ### Values -/

namespace MetadataBatch

theorem modelState_foldl (ws : List MetadataWrite) (b : MetadataBatch) :
    (ws.foldl apply b).modelState =
      Pending.replay id {} (collect ws).modelState b.modelState :=
  foldl_replay_state (f := modelState) (fun b w => by cases w <;> rfl) ws b

theorem get?_foldl (ws : List MetadataWrite) (b : MetadataBatch) (key : StorageKey) :
    (ws.foldl apply b).entities.get? key =
      Pending.replay some none ((collect ws).entities.get? key) (b.entities.get? key) := by
  refine foldl_replay_entity (f := fun b => b.entities.get? key) (fun b w => ?_) ws b
  cases w with
  | setState | clearState => rfl
  | set key' m | clear key' =>
    simp only [apply, push, SortedMap.get?_insert, SortedMap.get?_erase]
    split <;> rfl

@[ext] theorem ext {b c : MetadataBatch} (hstate : b.modelState = c.modelState)
    (hentities : ∀ key, b.entities.get? key = c.entities.get? key) : b = c := by
  obtain ⟨state, entities⟩ := b
  obtain rfl : state = c.modelState := hstate
  obtain rfl : entities = c.entities := SortedMap.ext_get? hentities
  rfl

/-- Writes that are collected alike leave the same values. -/
theorem foldl_congr {ws ws' : List MetadataWrite} (h : collect ws = collect ws')
    (b : MetadataBatch) : ws.foldl apply b = ws'.foldl apply b := by
  apply ext
  · rw [modelState_foldl, modelState_foldl, h]
  · intro key
    rw [get?_foldl, get?_foldl, h]

end MetadataBatch

/-! ### Bytes -/

namespace StoredMetadata

/-- The table of entries after a write. -/
def applyEntries (es : List (StorageKey × List UInt8)) :
    MetadataWrite → List (StorageKey × List UInt8)
  | .set key m => Database.setEntry key m.blob es
  | .clear key => es.filter (·.1 != key)
  | .setState _ | .clearState => es

/-- The bytes of the model state after a write. -/
def applyState (st : Option (List UInt8)) : MetadataWrite → Option (List UInt8)
  | .setState s => some s.blob
  | .clearState => none
  | .set _ _ | .clear _ => st

theorem foldl_values (ws : List MetadataWrite) (b : MetadataBatch) :
    ws.foldl apply (.values b) = .values (ws.foldl MetadataBatch.apply b) := by
  induction ws generalizing b with
  | nil => rfl
  | cons w ws ih => exact ih (b.apply w)

theorem foldl_bytes (ws : List MetadataWrite) (es : Option (List (StorageKey × List UInt8)))
    (st : Option (Option (List UInt8))) :
    ws.foldl apply (.bytes es st) =
      .bytes (es.map fun es => ws.foldl applyEntries es) (st.map fun st => ws.foldl applyState st) := by
  induction ws generalizing es st with
  | nil => cases es <;> cases st <;> rfl
  | cons w ws ih =>
    have hstep : apply (.bytes es st) w =
        .bytes (es.map (applyEntries · w)) (st.map (applyState · w)) := by
      cases w <;> cases es <;> cases st <;> rfl
    rw [List.foldl_cons, hstep, ih, Option.map_map, Option.map_map]
    rfl

theorem foldl_applyState (ws : List MetadataWrite) (st : Option (List UInt8)) :
    ws.foldl applyState st =
      Pending.replay (fun s => some s.blob) none (collect ws).modelState st :=
  foldl_replay_state (f := id) (fun st w => by cases w <;> rfl) ws st

/-- The entries of a storage key. -/
def entriesUnder (key : StorageKey) (es : List (StorageKey × List UInt8)) :
    List (StorageKey × List UInt8) :=
  es.filter (·.1 == key)

theorem entriesUnder_drop (key key' : StorageKey) (es : List (StorageKey × List UInt8)) :
    entriesUnder key (es.filter (·.1 != key')) = if key' = key then [] else entriesUnder key es := by
  split
  · next hk =>
    refine List.filter_eq_nil_iff.2 fun x hx => ?_
    obtain ⟨-, hne⟩ := List.mem_filter.1 hx
    rw [hk] at hne
    simpa using hne
  · next hk => exact filter_other hk es

theorem entriesUnder_foldl (ws : List MetadataWrite) (es : List (StorageKey × List UInt8))
    (key : StorageKey) :
    entriesUnder key (ws.foldl applyEntries es) =
      Pending.replay (fun m => [(key, m.blob)]) [] ((collect ws).entities.get? key)
        (entriesUnder key es) := by
  refine foldl_replay_entity (f := entriesUnder key) (fun es w => ?_) ws es
  cases w with
  | setState | clearState => rfl
  | clear key' =>
    simp only [applyEntries, entriesUnder_drop, push, SortedMap.get?_insert]
    split <;> rfl
  | set key' m =>
    have hset : entriesUnder key (Database.setEntry key' m.blob es) =
        (if key' = key then [] else entriesUnder key es) ++ entriesUnder key [(key', m.blob)] := by
      rw [← entriesUnder_drop, Database.setEntry, entriesUnder, List.filter_append]
      rfl
    simp only [applyEntries, hset, push, SortedMap.get?_insert]
    by_cases hk : key' = key
    · simp [hk, entriesUnder, Pending.replay]
    · simp [hk, entriesUnder, Pending.replay]

/-! ## 2. Metadata with the same cells -/

/-- Each cell holds the same: the same values, or the same bytes in each table that exists. -/
def Same : StoredMetadata → StoredMetadata → Prop
  | .values b, .values b' => b = b'
  | .bytes es st, .bytes es' st' => es.isSome = es'.isSome ∧ st = st' ∧
      ∀ key, entriesUnder key (es.getD []) = entriesUnder key (es'.getD [])
  | _, _ => False

/-- **Writes that are collected alike leave the same cells.** -/
theorem same_foldl {ws ws' : List MetadataWrite} (h : collect ws = collect ws')
    (m : StoredMetadata) : (ws.foldl apply m).Same (ws'.foldl apply m) := by
  cases m with
  | values b =>
    rw [foldl_values, foldl_values]
    exact MetadataBatch.foldl_congr h b
  | bytes es st =>
    rw [foldl_bytes, foldl_bytes]
    refine ⟨?_, ?_, fun key => ?_⟩
    · rw [Option.isSome_map, Option.isSome_map]
    · simp only [foldl_applyState, h]
    · cases es with
      | none => rfl
      | some es =>
        show entriesUnder key (ws.foldl applyEntries es) = entriesUnder key (ws'.foldl applyEntries es)
        rw [entriesUnder_foldl, entriesUnder_foldl, h]

end StoredMetadata

namespace Database

open StoredMetadata (entriesUnder)

/-- **What is read of a list of entries**: all of them can be read, and under each storage key the last
one counts. -/
theorem readEntries_eq_ok {es : List (StorageKey × List UInt8)}
    {m n : SortedMap StorageKey EntityMetadata} :
    readEntries m es = .ok n ↔
      (∀ e ∈ es, ∃ md, EntityMetadata.ofBlob e.2 = .ok md) ∧
        ∀ key, n.get? key = ((entriesUnder key es).getLast?.bind fun e =>
          (EntityMetadata.ofBlob e.2).toOption).or (m.get? key) := by
  induction es generalizing m with
  | nil =>
    simp only [readEntries, Except.ok.injEq, List.not_mem_nil, false_implies, implies_true, true_and]
    exact ⟨fun h key => by rw [h]; rfl, fun h => (SortedMap.ext_get? h).symm⟩
  | cons e es ih =>
    obtain ⟨key', bytes⟩ := e
    rw [readEntries]
    cases hb : EntityMetadata.ofBlob bytes with
    | error fault =>
      constructor
      · intro h
        cases h
      · rintro ⟨hall, -⟩
        obtain ⟨md, hmd⟩ := hall _ List.mem_cons_self
        rw [hb] at hmd
        cases hmd
    | ok md =>
      have hfirst : ∃ md, EntityMetadata.ofBlob (key', bytes).2 = .ok md := ⟨md, hb⟩
      dsimp only
      rw [ih, List.forall_mem_cons, and_iff_right hfirst]
      refine and_congr_right fun hall => forall_congr' fun key => ?_
      rw [SortedMap.get?_insert, entriesUnder, entriesUnder, List.filter_cons]
      -- the first entry counts under its own key, if no later one does
      by_cases hk : key' = key
      · rw [if_pos hk, if_pos (beq_iff_eq.2 hk), List.getLast?_cons]
        cases hlast : (es.filter (·.1 == key)).getLast? with
        | none => simp [hb, Except.toOption]
        | some e =>
          obtain ⟨md', hmd'⟩ := hall e (List.mem_filter.1 (List.mem_of_getLast? hlast)).1
          simp [hmd', Except.toOption]
      · rw [if_neg hk, if_neg (by simpa using hk)]

end Database

namespace StoredMetadata

theorem mem_entriesUnder {es : List (StorageKey × List UInt8)} {e : StorageKey × List UInt8} :
    e ∈ entriesUnder e.1 es ↔ e ∈ es := by
  rw [entriesUnder, List.mem_filter, beq_self_eq_true, and_iff_left rfl]

theorem shows_bytes {es : List (StorageKey × List UInt8)} {st : Option (Option (List UInt8))}
    {b : MetadataBatch} : (bytes (some es) st).Shows b ↔
      Database.readEntries {} es = .ok b.entities ∧
        ∃ stored, st = some stored ∧ ModelState.ofStored stored = .ok b.modelState := by
  constructor
  · rintro ⟨_, stored, hsome, hst, hes, hstate⟩
    cases hsome
    exact ⟨hes, stored, hst, hstate⟩
  · rintro ⟨hes, stored, hst, hstate⟩
    exact ⟨es, stored, rfl, hst, hes, hstate⟩

/-- **What is shown is settled by the cells.** -/
theorem Same.shows_iff {m m' : StoredMetadata} (h : m.Same m') (b : MetadataBatch) :
    m.Shows b ↔ m'.Shows b := by
  cases m with
  | values c =>
    cases m' with
    | values c' =>
      obtain rfl : c = c' := h
      exact Iff.rfl
    | bytes => cases h
  | bytes es? st =>
    cases m' with
    | values => cases h
    | bytes es?' st' =>
      obtain ⟨hsome, rfl, hunder⟩ := h
      cases es? with
      | none =>
        cases es?' with
        | none => exact Iff.rfl
        | some es' => cases hsome
      | some es =>
        cases es?' with
        | none => cases hsome
        | some es' =>
          have hunder : ∀ key, entriesUnder key es = entriesUnder key es' := hunder
          have hmem : ∀ e, e ∈ es ↔ e ∈ es' := fun e => by
            rw [← mem_entriesUnder, hunder, mem_entriesUnder]
          have hread : ∀ n,
              Database.readEntries {} es = .ok n ↔ Database.readEntries {} es' = .ok n := by
            intro n
            simp only [Database.readEntries_eq_ok, hunder, hmem]
          rw [shows_bytes, shows_bytes, hread]

end StoredMetadata

/-! ## 3. Which writes are carried out -/

/-- There is a place for the cell: the table that it belongs to. -/
def StoredMetadata.HasPlace : StoredMetadata → Option StorageKey → Prop
  | .values _, _ => True
  | .bytes es _, some _ => es.isSome = true
  | .bytes _ st, none => st.isSome = true

theorem StoredMetadata.hasPlace_foldl (ws : List MetadataWrite) (m : StoredMetadata)
    (cell : Option StorageKey) : (ws.foldl apply m).HasPlace cell ↔ m.HasPlace cell := by
  cases m with
  | values b =>
    rw [foldl_values]
    exact Iff.rfl
  | bytes es st =>
    rw [foldl_bytes]
    cases cell <;> simp [HasPlace]

namespace Database

theorem changeEntries_ok_iff {d : Database}
    {f : List (StorageKey × List UInt8) → List (StorageKey × List UInt8)} :
    ((changeEntries f).perform d).1 = .ok () ↔
      d.barrier? = none ∧ d.tables.entityMetadata.isSome = true := by
  cases hes : d.tables.entityMetadata <;> cases hb : d.barrier? <;>
    simp [changeEntries, perform_bind, hes, hb]

theorem changeState_ok_iff {d : Database} {bytes : Option (List UInt8)} :
    ((changeState bytes).perform d).1 = .ok () ↔
      d.barrier? = none ∧ d.tables.modelState.isSome = true := by
  cases hst : d.tables.modelState <;> cases hb : d.barrier? <;>
    simp [changeState, perform_bind, hst, hb]

end Database

namespace Store

/-- Metadata can be written, as far as the store is told. -/
def Switches.Writable : Switches → Prop
  | .table faults => faults.metadataWrites = false
  | .database locked readOnly _ => readOnly = false ∧ locked = false

/-- Metadata can be read, as far as the store is told. -/
def Switches.Readable : Switches → Prop
  | .table faults => faults.metadataReads = false
  | .database _ _ _ => True

/-- The store carries the write out. -/
def Takes (s : Store) (w : MetadataWrite) : Prop := ((writeMetadata w).perform s).1 = .ok ()

variable {s s' : Store}

/-- **Which writes are carried out.** -/
theorem takes_iff {w : MetadataWrite} :
    s.Takes w ↔ s.switches.Writable ∧ s.metadata.HasPlace w.cell := by
  cases s with
  | table t =>
    cases hf : t.faults.metadataWrites <;>
      simp [Takes, writeMetadata, either, Table.writeMetadata, perform_bind, switches,
        Switches.Writable, hf, metadata, content, Content.metadata, StoredMetadata.HasPlace]
  | database d =>
    have hbarrier : (Store.database d).switches.Writable ↔ d.barrier? = none :=
      Database.barrier?_eq_none.symm
    rw [hbarrier]
    cases w with
    | setState state | clearState => exact Database.changeState_ok_iff
    | set key m | clear key => exact Database.changeEntries_ok_iff

/-- The writes that are carried out stay the same behind any writes. -/
theorem takes_congr {w w' : MetadataWrite} (ws : List MetadataWrite)
    (hswitches : s'.switches = s.switches)
    (hmetadata : s'.metadata = ws.foldl StoredMetadata.apply s.metadata) (hcell : w'.cell = w.cell) :
    s'.Takes w' ↔ s.Takes w := by
  rw [takes_iff, takes_iff, hswitches, hmetadata, hcell, StoredMetadata.hasPlace_foldl]

/-- **All writes are carried out if all of others are that are collected alike.** -/
theorem forall_takes_congr {ws ws' : List MetadataWrite} (h : collect ws = collect ws') :
    (∀ w ∈ ws, s.Takes w) ↔ ∀ w ∈ ws', s.Takes w := by
  have honly : ∀ {ws ws' : List MetadataWrite}, collect ws = collect ws' → (∀ w ∈ ws, s.Takes w) →
      ∀ w ∈ ws', s.Takes w := by
    intro ws ws' h hall w hw
    obtain ⟨w', hw', hcell⟩ := (exists_cell_congr h w.cell).2 ⟨w, hw, rfl⟩
    exact (takes_congr [] rfl rfl hcell).1 (hall w' hw')
  exact ⟨honly h, honly h.symm⟩

/-! ## 4. Stores with the same metadata -/

/-- **What can be read is what is shown.** -/
theorem readMetadata_eq_ok {b : MetadataBatch} :
    (readMetadata.perform s).1 = .ok b ↔ s.switches.Readable ∧ s.metadata.Shows b := by
  constructor
  · intro h
    have hread : readMetadata.perform s = (.ok b, (readMetadata.perform s).2) := Prod.ext h rfl
    refine ⟨?_, shows_of_readMetadata hread⟩
    cases s with
    | table t =>
      cases hf : t.faults.metadataReads with
      | false => exact hf
      | true => simp [readMetadata, either, Table.readMetadata, perform_bind, hf] at h
    | database d => trivial
  · rintro ⟨hreadable, hshows⟩
    cases s with
    | table t =>
      have hf : t.faults.metadataReads = false := hreadable
      have hb : t.content.metadata = b := hshows
      simp [readMetadata, either, Table.readMetadata, perform_bind, hf, hb]
    | database d => simp [readMetadata, either, Database.readMetadata_of_shows hshows]

/-- The stores hold the same metadata: in each cell, and as it is read. -/
structure SameMetadata (s s' : Store) : Prop where
  cells : s.metadata.Same s'.metadata
  read : ∀ b, (readMetadata.perform s).1 = .ok b ↔ (readMetadata.perform s').1 = .ok b

theorem SameMetadata.of_cells (h : s.metadata.Same s'.metadata) (hswitches : s'.switches = s.switches) :
    SameMetadata s s' :=
  ⟨h, fun b => by rw [readMetadata_eq_ok, readMetadata_eq_ok, hswitches, h.shows_iff b]⟩

/-- **Whether a commit succeeds depends on the switches and on the open transaction.** -/
theorem commit_congr (hswitches : s'.switches = s.switches) (hsaved : s'.saved = s.saved) :
    (commit.perform s').1 = (commit.perform s).1 := by
  cases s with
  | table t =>
    cases s' with
    | table t' =>
      have hf : t'.faults = t.faults := Switches.table.inj hswitches
      cases hc : t.faults.commits <;> simp [commit, either, Table.commit, perform_bind, hf, hc]
    | database d' => cases hswitches
  | database d =>
    cases s' with
    | table t' => cases hswitches
    | database d' =>
      obtain ⟨-, hro, hb⟩ := Switches.database.inj hswitches
      have hnone : d'.saved = none ↔ d.saved = none := by
        have h := congrArg (· = none) hsaved
        simpa [saved] using h
      by_cases hclosed : d.saved = none
      · simp [commit, either, Database.commit, perform_bind, hnone.2 hclosed, hclosed]
      · have hclosed' : d'.saved ≠ none := fun h => hclosed (hnone.1 h)
        cases hs : d.busy <;> cases hm : d.readOnly <;>
          simp [commit, either, Database.commit, perform_bind, hro, hb, hs, hm, hclosed, hclosed']

end Store

end CredentialSync
