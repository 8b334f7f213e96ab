import CredentialSync.Proofs.Store.Ledger

/-!
# The two stores in lockstep

A table keeps several records with one natural key, a database one only. Asked to make room before each
addition (`Store.replace`), a table does what a database does: whatever is asked of both from the
beginning, they return the same, and hold the same records and the same metadata after every request
(`Request.stores_agree`).

Both show one and the same `Ledger` all the time. What is asked has to make sense: transactions are
begun and committed in turn, no more records are added than there are keys, and metadata fits into the
bytes that hold it.
-/

namespace CredentialSync

open Attempt

/-! ## 1. A table that makes room -/

/-- Removes the record with the natural key, if there is one. -/
def Store.clear (key : NaturalKey) : Attempt Store (List LocalChange) := do
  match ← find? key with
  | none => return []
  | some old => remove old

/-- Adds a record when the one with the same natural key is gone; one report follows the other. -/
def Store.replace (r : Record) : Attempt Store (List LocalChange) := do
  let removed ← clear r.naturalKey
  let added ← add r
  return removed ++ added

/-- The answer to a request by a store that is asked to make room before each addition. -/
def Request.replacing : Request → Attempt Store Reply
  | .edit (.add r) => .changes <$> Store.replace r
  | q => q.attempt

namespace Vault

/-- An addition makes room, and then adds without replacing. -/
theorem edit_makeRoom (replacing : Bool) (v : Vault) (r : Record) :
    v.edit replacing (.add r) = ((v.makeRoom replacing r).2.edit false (.add r)).map
      fun x => ((v.makeRoom replacing r).1 ++ x.1, x.2) := by
  simp only [edit, Option.map_map]
  rfl

/-- Only an addition looks at whether it replaces. -/
theorem edit_congr {e : Edit} (he : ∀ r, e ≠ .add r) (v : Vault) (replacing replacing' : Bool) :
    v.edit replacing e = v.edit replacing' e := by
  cases e with
  | add r => exact absurd rfl (he r)
  | update r => rfl
  | updateAt key r => rfl
  | remove key => rfl

end Vault

namespace Store.Shows

variable {s : Store} {l : Ledger}

theorem clear (h : s.Shows l) (n : NaturalKey) :
    ∃ s', (Store.clear n).perform s = (.ok (l.page.vault.clear n).1, s') ∧
      s'.replaces = s.replaces ∧
      s'.Shows { l with page := { l.page with vault := (l.page.vault.clear n).2 } } := by
  unfold Store.clear
  rw [bind_of_ok (h.able.find? n), h.vault_eq]
  unfold Vault.clear
  cases l.page.vault.find? n with
  | none => exact ⟨s, rfl, rfl, h⟩
  | some key => exact h.edit (e := .remove key) rfl

/-- **A table that makes room adds a record as a database does.** -/
theorem replace (h : s.Shows l) (hadds : s.replaces = false) {r : Record} {cs : List LocalChange}
    {v : Vault} (hedit : l.page.vault.edit true (.add r) = some (cs, v)) :
    ∃ s', (Store.replace r).perform s = (.ok cs, s') ∧ s'.replaces = s.replaces ∧
      s'.Shows { l with page := { l.page with vault := v } } := by
  obtain ⟨w, hw, hwreplaces, hwshows⟩ := h.clear r.naturalKey
  rw [Vault.edit_makeRoom] at hedit
  obtain ⟨⟨added, v'⟩, hadd, he⟩ := Option.map_eq_some_iff.1 hedit
  obtain ⟨rfl, rfl⟩ := Prod.mk.inj he
  rw [← hadds, ← hwreplaces] at hadd
  obtain ⟨s', hs, hreplaces, hshows⟩ := hwshows.edit (e := .add r) hadd
  refine ⟨s', ?_, hreplaces.trans hwreplaces, hshows⟩
  have hs : (Store.add r).perform w = (.ok added, s') := hs
  rw [Store.replace, bind_of_ok hw, bind_of_ok hs]
  rfl

/-- A table that makes room answers as a database does. -/
theorem replacing (h : s.Shows l) (hadds : s.replaces = false) {q : Request} (hq : l.Grants q) :
    ∃ s', q.replacing.perform s = (.ok (l.answer true q).1, s') ∧ s'.replaces = s.replaces ∧
      s'.Shows (l.answer true q).2 := by
  have hsame (hne : ∀ r, q ≠ .edit (.add r)) :
      q.replacing = q.attempt ∧ l.answer true q = l.answer s.replaces q := by
    cases q with
    | edit e =>
      have he : ∀ r, e ≠ .add r := fun r hr => hne r (congrArg Request.edit hr)
      refine ⟨?_, by simp only [Ledger.answer, Vault.edit_congr he _ true s.replaces]⟩
      cases e with
      | add r => exact absurd rfl (he r)
      | update r | updateAt key r | remove key => rfl
    | _ => exact ⟨rfl, rfl⟩
  -- Only an addition is served in another way than by the operation that it asks for.
  by_cases hadd : ∃ r, q = .edit (.add r)
  · obtain ⟨r, rfl⟩ := hadd
    have hgranted : (l.page.vault.edit true (.add r)).isSome = true := Vault.edit_isSome.2 hq
    obtain ⟨⟨cs, v⟩, hedit⟩ := Option.isSome_iff_exists.1 hgranted
    obtain ⟨s', hs, hreplaces, hshows⟩ := h.replace hadds hedit
    refine ⟨s', ?_, hreplaces, ?_⟩
    · simp [Request.replacing, hs, Ledger.answer, hedit, Except.map]
    · simpa [Ledger.answer, hedit] using hshows
  · obtain ⟨hattempt, hanswer⟩ := hsame fun r hr => hadd ⟨r, hr⟩
    rw [hattempt, hanswer]
    exact h.answer hq

end Store.Shows

/-! ## 2. Runs of requests -/

/-- What can be seen of a store behind a request: the answer, the records and the metadata. -/
structure Observation where
  reply : Except SyncError Reply
  records : Except SyncError (SortedMap PrimaryKey Record)
  metadata : Except SyncError MetadataBatch

namespace Observation

/-- What can be seen of a store that gave an answer. -/
def ofStore (reply : Except SyncError Reply) (s : Store) : Observation where
  reply
  records := (Store.readAll.perform s).1
  metadata := (Store.readMetadata.perform s).1

/-- Nothing failed. -/
structure Succeeded (o : Observation) : Prop where
  reply : ∃ reply, o.reply = .ok reply
  records : ∃ records, o.records = .ok records
  metadata : ∃ metadata, o.metadata = .ok metadata

end Observation

namespace Request

/-- What can be seen of a store behind each of some requests. -/
def observations (serve : Request → Attempt Store Reply) : List Request → Store → List Observation
  | [], _ => []
  | q :: qs, s =>
    let (reply, s') := (serve q).perform s
    .ofStore reply s' :: observations serve qs s'

/-- Transactions are begun and committed in turn; one may be rolled back at any time. -/
def timely : Bool → List Request → Bool
  | _, [] => true
  | isOpen, .begin :: qs => !isOpen && timely true qs
  | isOpen, .commit :: qs => isOpen && timely false qs
  | _, .rollback :: qs => timely false qs
  | isOpen, _ :: qs => timely isOpen qs

/-- What is to be written can be written. -/
def Fits : Request → Prop
  | .writeMetadata w => w.Fits
  | _ => True

/-- Whether the request adds a record. -/
def isAddition : Request → Bool
  | .edit (.add _) => true
  | _ => false

/-- How many keys the request takes. -/
def keysTaken (q : Request) : Nat := if q.isAddition then 1 else 0

end Request

namespace Ledger

/-- The requests are granted one after another. -/
def GrantsAll (l : Ledger) : List Request → Prop
  | [] => True
  | q :: qs => l.Grants q ∧ (l.answer true q).2.GrantsAll qs

/-- What can be seen behind each of some requests. -/
def observations (l : Ledger) : List Request → List Observation
  | [] => []
  | q :: qs =>
    let (reply, l') := l.answer true q
    { reply := .ok reply, records := .ok l'.page.vault.records, metadata := .ok l'.page.metadata } ::
      l'.observations qs

end Ledger

/-! ## 3. What a ledger grants -/

/-- An addition takes one key, no other edit does. -/
theorem Vault.keysLeft_edit {replacing : Bool} {v v' : Vault} {e : Edit} {cs : List LocalChange}
    (h : v.edit replacing e = some (cs, v')) :
    v.lastKey.keysLeft = v'.lastKey.keysLeft + (Request.edit e).keysTaken := by
  cases e with
  | add r =>
    obtain ⟨⟨added, w⟩, hadd, he⟩ := Option.map_eq_some_iff.1 h
    obtain ⟨key, hkey, hw⟩ := Option.map_eq_some_iff.1 hadd
    cases hw
    cases he
    rw [lastKey_makeRoom] at hkey
    exact PrimaryKey.keysLeft_of_next? hkey
  | update r =>
    simp only [Vault.edit] at h
    split at h <;> cases h <;> rfl
  | updateAt key r =>
    have hv : (v.updateAt key r).2 = v' := congrArg Prod.snd (Option.some.inj h)
    rw [← hv]
    unfold Vault.updateAt
    split
    · rfl
    · split <;> rfl
  | remove key =>
    have hv : (v.remove key).2 = v' := congrArg Prod.snd (Option.some.inj h)
    rw [← hv]
    unfold Vault.remove
    split <;> rfl

namespace Ledger

variable {l : Ledger} {q : Request} {n : Nat}

/-- So many keys are left, and were left when the open transaction began. -/
structure Room (l : Ledger) (n : Nat) : Prop where
  page : n ≤ l.page.vault.lastKey.keysLeft
  saved : ∀ p, l.saved = some p → n ≤ p.vault.lastKey.keysLeft

/-- A request takes no more keys than it needs; a rollback gives keys back. -/
theorem Room.answer (h : l.Room (n + q.keysTaken)) (replacing : Bool) :
    (l.answer replacing q).2.Room n := by
  have hweak : l.Room n :=
    ⟨Nat.le_trans (Nat.le_add_right _ _) h.page,
      fun p hp => Nat.le_trans (Nat.le_add_right _ _) (h.saved p hp)⟩
  cases q with
  | edit e =>
    simp only [Ledger.answer]
    cases hedit : l.page.vault.edit replacing e with
    | none => exact hweak
    | some x =>
      have hkeys := Vault.keysLeft_edit hedit
      have hpage := h.page
      exact ⟨by show n ≤ x.2.lastKey.keysLeft; omega, hweak.saved⟩
  | begin =>
    refine ⟨hweak.page, fun p hp => ?_⟩
    obtain rfl : l.page = p := Option.some.inj hp
    exact hweak.page
  | commit => exact ⟨hweak.page, fun p hp => absurd hp (Option.some_ne_none p).symm⟩
  | rollback =>
    refine ⟨?_, fun p hp => absurd hp (Option.some_ne_none p).symm⟩
    show n ≤ (l.saved.getD l.page).vault.lastKey.keysLeft
    cases hsaved : l.saved with
    | none => exact hweak.page
    | some p => exact hweak.saved p hsaved
  | writeMetadata w => exact ⟨hweak.page, hweak.saved⟩
  | record? key | find? key | readAll | readMetadata => exact hweak

/-- The first of some timely requests is timely, and the others are behind it. -/
theorem timely_answer {qs : List Request} (h : Request.timely l.saved.isSome (q :: qs) = true)
    (replacing : Bool) : Request.timely (l.answer replacing q).2.saved.isSome qs = true := by
  cases q with
  | edit e =>
    simp only [Ledger.answer]
    split <;> exact h
  | begin => exact (Bool.and_eq_true_iff.1 h).2
  | commit => exact (Bool.and_eq_true_iff.1 h).2
  | rollback | record? key | find? key | readAll | readMetadata | writeMetadata w => exact h

theorem grants_of_timely {qs : List Request} (h : Request.timely l.saved.isSome (q :: qs) = true)
    (hfits : q.Fits) (hroom : l.Room (n + q.keysTaken)) : l.Grants q := by
  cases q with
  | edit e =>
    rintro r rfl
    have hpage := hroom.page
    exact Nat.lt_of_lt_of_le (Nat.succ_pos n) hpage
  | writeMetadata w => exact hfits
  | begin => simpa [Grants, Request.timely] using (Bool.and_eq_true_iff.1 h).1
  | commit => exact Option.isSome_iff_ne_none.1 (Bool.and_eq_true_iff.1 h).1
  | rollback | record? key | find? key | readAll | readMetadata => trivial

theorem grantsAll {qs : List Request} (htimely : Request.timely l.saved.isSome qs = true)
    (hfits : ∀ q ∈ qs, q.Fits) (hroom : l.Room (qs.countP Request.isAddition)) :
    l.GrantsAll qs := by
  induction qs generalizing l with
  | nil => trivial
  | cons q qs ih =>
    rw [List.countP_cons] at hroom
    refine ⟨grants_of_timely htimely (hfits q List.mem_cons_self) hroom, ih ?_ ?_ ?_⟩
    · exact timely_answer htimely true
    · exact fun q' hq' => hfits q' (List.mem_cons_of_mem _ hq')
    · exact hroom.answer true

end Ledger

/-! ## 4. Lockstep -/

namespace Request

variable {s : Store} {l : Ledger} {qs : List Request}

/-- Whatever serves each request as the ledger does shows in a run what the ledger shows. -/
theorem observations_of_shows {serve : Request → Attempt Store Reply} {P : Store → Prop}
    (hserve : ∀ (s : Store) (l : Ledger) (q : Request), P s → s.Shows l → l.Grants q →
      ∃ s', (serve q).perform s = (.ok (l.answer true q).1, s') ∧ P s' ∧
        s'.Shows (l.answer true q).2)
    (hs : P s) (hshows : s.Shows l) (hgrants : l.GrantsAll qs) :
    observations serve qs s = l.observations qs := by
  induction qs generalizing s l with
  | nil => rfl
  | cons q qs ih =>
    obtain ⟨hq, hqs⟩ := hgrants
    obtain ⟨s', hperform, hs', hshows'⟩ := hserve s l q hs hshows hq
    have hrecords := hshows'.able.readAll
    have hmetadata := hshows'.readMetadata
    have hrest := ih hs' hshows' hqs
    simp only [observations, Ledger.observations, Observation.ofStore, hperform, hrecords, hmetadata,
      hrest, hshows'.vault_eq]

theorem shows_table : (Store.table {}).Shows {} :=
  ⟨rfl, ⟨rfl, rfl, Vault.sound_empty, trivial⟩, .none⟩

theorem shows_database : (Store.database .fresh).Shows {} := by
  have htables : Database.fresh.tables =
      { versions := some [1, 2], records := some {}, entityMetadata := some [],
        modelState := some none } := rfl
  have hlegible : (Content.database Database.fresh.tables).Legible :=
    ⟨{}, rfl, fun key row hrow => by simp at hrow⟩
  refine ⟨⟨rfl, rfl⟩, ⟨?_, ?_, ?_, hlegible⟩, .none⟩
  · show (Content.database Database.fresh.tables).vault = _
    rw [htables]
    rfl
  · exact ⟨[], none, rfl, rfl, rfl, rfl⟩
  · show (Content.database Database.fresh.tables).vault.Sound
    rw [htables]
    exact Vault.sound_empty

theorem succeeded_of_ledger {o : Observation} (h : o ∈ l.observations qs) : o.Succeeded := by
  induction qs generalizing l with
  | nil => cases h
  | cons q qs ih =>
    rcases List.mem_cons.1 h with rfl | h
    · exact ⟨⟨_, rfl⟩, ⟨_, rfl⟩, ⟨_, rfl⟩⟩
    · exact ih h

/-- **A table that makes room and a database, both empty at first, cannot be told apart.** Behind each of
    any timely requests they gave the same answer, hold the same records under the same keys and the
    same metadata; and no request fails. -/
theorem stores_agree (htimely : timely false qs = true) (hfits : ∀ q ∈ qs, q.Fits)
    (hkeys : qs.countP isAddition ≤ PrimaryKey.keysLeft 0) :
    observations replacing qs (.table {}) = observations attempt qs (.database .fresh) ∧
      ∀ o ∈ observations attempt qs (.database .fresh), o.Succeeded := by
  have hgrants : Ledger.GrantsAll {} qs :=
    Ledger.grantsAll htimely hfits ⟨hkeys, fun p hp => nomatch hp⟩
  have htable : observations replacing qs (.table {}) = Ledger.observations {} qs := by
    refine observations_of_shows (P := fun s => s.replaces = false) ?_ rfl shows_table hgrants
    intro s l q hs hshows hq
    obtain ⟨s', hperform, hreplaces, hshows'⟩ := hshows.replacing hs hq
    exact ⟨s', hperform, hreplaces.trans hs, hshows'⟩
  have hdatabase : observations attempt qs (.database .fresh) = Ledger.observations {} qs := by
    refine observations_of_shows (P := fun s => s.replaces = true) ?_ rfl shows_database hgrants
    intro s l q hs hshows hq
    obtain ⟨s', hperform, hreplaces, hshows'⟩ := hshows.answer hq
    rw [hs] at hperform hshows'
    exact ⟨s', hperform, hreplaces.trans hs, hshows'⟩
  refine ⟨htable.trans hdatabase.symm, fun o ho => ?_⟩
  rw [hdatabase] at ho
  exact succeeded_of_ledger ho

/-- A record is added, replaced in a transaction that is rolled back, and replaced again. -/
def rounds : List Request :=
  [.edit (.add {}), .begin, .edit (.add {}), .writeMetadata (.set "2" {}), .rollback, .edit (.add {}),
    .readAll]

theorem stores_agree_rounds :
    timely false rounds = true ∧ (∀ q ∈ rounds, q.Fits) ∧
      rounds.countP isAddition ≤ PrimaryKey.keysLeft 0 ∧
      observations replacing rounds (.table {}) = observations attempt rounds (.database .fresh) := by
  have hempty : Blob.FitsText "" := by
    show (Text.Utf8.encode "").length < Blob.lengthLimit
    decide
  have hfits : ∀ q ∈ rounds, q.Fits := by
    simp only [rounds, List.forall_mem_cons]
    exact ⟨trivial, trivial, trivial, ⟨hempty, hempty, hempty⟩, trivial, trivial, trivial, nofun⟩
  have hkeys : rounds.countP isAddition ≤ PrimaryKey.keysLeft 0 := by decide
  exact ⟨rfl, hfits, hkeys, (stores_agree rfl hfits hkeys).1⟩

end Request

end CredentialSync
