import CredentialSync.SortedMap

/-!
# Looking up in finite maps

What each operation on a `SortedMap` does to the values of the keys:

* `get?_insert`, `get?_erase`, `get?_mapValues`: one equation per operation;
* `mem_toList_iff`: the entries of a map are its keys with their values;
* `ext_get?`: maps that give every key the same value are equal;
* `findKey?_eq_some`, `findKey?_eq_none`: what a search by value finds;
* `values_erase`, `values_insert`: what becomes of the values as a whole, up to their order;
* `foldl_insert_toList`: a map is built from its entries.
-/

namespace CredentialSync.SortedMap

open scoped List

variable {κ α β : Type} [Ord κ]

/-! ## 1. Values -/

@[simp] theorem get?_emptyCollection (k : κ) : (∅ : SortedMap κ α).get? k = none := rfl

/-- The map with every value replaced. -/
def mapValues (f : α → β) (m : SortedMap κ α) : SortedMap κ β :=
  ⟨m.toList.map fun e => (e.1, f e.2), List.pairwise_map.2 m.ascending⟩

@[simp] theorem get?_mapValues (f : α → β) (m : SortedMap κ α) (k : κ) :
    (m.mapValues f).get? k = (m.get? k).map f := by
  simp only [get?, mapValues, List.find?_map, Option.map_map]
  rfl

theorem findKey?_mapValues (f : α → β) (m : SortedMap κ α) (p : β → Bool) :
    (m.mapValues f).findKey? p = m.findKey? (p ∘ f) := by
  simp only [findKey?, mapValues, List.find?_map, Option.map_map]
  rfl

theorem erase_mapValues (f : α → β) (m : SortedMap κ α) (k : κ) :
    (m.erase k).mapValues f = (m.mapValues f).erase k := by
  refine ext ?_
  simp only [mapValues, erase, List.filter_map]
  rfl

section Lawful

variable [Std.LawfulEqOrd κ]

theorem compare_beq_eq {a b : κ} : (compare a b == .eq) = true ↔ a = b := by
  rw [beq_iff_eq]
  exact Std.LawfulEqCmp.compare_eq_iff_eq

theorem ne_of_compare_ne {a b : κ} (h : compare a b ≠ .eq) : a ≠ b :=
  fun e => h (Std.LawfulEqCmp.compare_eq_iff_eq.2 e)

/-- An entry is a key with its value. -/
theorem mem_toList_iff {m : SortedMap κ α} {k : κ} {a : α} :
    (k, a) ∈ m.toList ↔ m.get? k = some a := by
  unfold get?
  obtain ⟨es, hes⟩ := m
  induction es with
  | nil => simp
  | cons e es ih =>
    obtain ⟨k', a'⟩ := e
    obtain ⟨hlt, hes⟩ := List.pairwise_cons.1 hes
    rw [List.find?_cons]
    by_cases hk : k = k'
    · subst hk
      have hnot : (k, a) ∉ es := fun h => ne_of_compare_ne (by rw [hlt _ h]; nofun) rfl
      have hself : (compare k k == .eq) = true := compare_beq_eq.2 rfl
      simp only [hself, List.mem_cons, Prod.mk.injEq, true_and, hnot, or_false, Option.map_some,
        Option.some.injEq]
      exact eq_comm
    · have hne : (compare k k' == .eq) = false := Bool.eq_false_iff.2 fun h => hk (compare_beq_eq.1 h)
      simp only [hne, List.mem_cons, Prod.mk.injEq, hk, false_and, false_or]
      exact ih hes

theorem nodup_keys (m : SortedMap κ α) : m.keys.Nodup :=
  List.pairwise_map.2 (m.ascending.imp fun h => ne_of_compare_ne (by rw [h]; nofun))

theorem mem_keys_iff {m : SortedMap κ α} {k : κ} : k ∈ m.keys ↔ (m.get? k).isSome = true := by
  rw [Option.isSome_iff_exists, keys, List.mem_map]
  constructor
  · rintro ⟨⟨k, a⟩, hmem, rfl⟩
    exact ⟨a, mem_toList_iff.1 hmem⟩
  · rintro ⟨a, ha⟩
    exact ⟨(k, a), mem_toList_iff.2 ha, rfl⟩

omit [Std.LawfulEqOrd κ] in
theorem length_keys (m : SortedMap κ α) : m.keys.length = m.size := List.length_map _

theorem nodup_toList (m : SortedMap κ α) : m.toList.Nodup :=
  List.Pairwise.of_map Prod.fst (fun _ _ hne e => hne (congrArg Prod.fst e)) m.nodup_keys

/-- One entry belongs to a key. -/
theorem filter_toList_of_get? [BEq κ] [LawfulBEq κ] {m : SortedMap κ α} {k : κ} {a : α}
    (h : m.get? k = some a) : m.toList.filter (·.1 == k) = [(k, a)] := by
  have hmem := mem_toList_iff.2 h
  have hnodup := m.nodup_keys
  unfold keys at hnodup
  generalize m.toList = es at hmem hnodup ⊢
  induction es with
  | nil => cases hmem
  | cons x es ih =>
    obtain ⟨hx, hnodup⟩ := List.nodup_cons.1 hnodup
    rw [List.filter_cons]
    rcases List.mem_cons.1 hmem with rfl | hmem
    · have hnone : es.filter (·.1 == k) = [] := by
        refine List.filter_eq_nil_iff.2 fun y hy hk => hx ?_
        exact List.mem_map.2 ⟨y, hy, eq_of_beq hk⟩
      simp [hnone]
    · have hne : (x.1 == k) = false := by
        exact beq_eq_false_iff_ne.2 fun hk => hx (List.mem_map.2 ⟨(k, a), hmem, hk.symm⟩)
      rw [hne]
      exact ih hmem hnodup

@[simp] theorem get?_erase [DecidableEq κ] (m : SortedMap κ α) (k k' : κ) :
    (m.erase k).get? k' = if k = k' then none else m.get? k' := by
  refine Option.ext fun b => ?_
  rw [← mem_toList_iff, erase, List.mem_filter]
  by_cases hk : k = k'
  · simp [hk]
  · simp [hk, mem_toList_iff]

/-- Erasing a key leaves an entry alone that it does not have. -/
theorem get?_erase_iff [DecidableEq κ] {m : SortedMap κ α} {k k' : κ} {a : α}
    (h : m.get? k ≠ some a) : (m.erase k).get? k' = some a ↔ m.get? k' = some a := by
  rw [get?_erase]
  split
  · next hk => simpa [hk] using h
  · exact Iff.rfl

theorem findKey?_eq_some {m : SortedMap κ α} {p : α → Bool} {k : κ} (h : m.findKey? p = some k) :
    ∃ a, m.get? k = some a ∧ p a = true := by
  obtain ⟨⟨k', a⟩, hfind, rfl⟩ := Option.map_eq_some_iff.1 h
  exact ⟨a, mem_toList_iff.1 (List.mem_of_find?_eq_some hfind), by simpa using List.find?_some hfind⟩

theorem findKey?_eq_none {m : SortedMap κ α} {p : α → Bool} :
    m.findKey? p = none ↔ ∀ k a, m.get? k = some a → p a = false := by
  simp only [findKey?, Option.map_eq_none_iff, List.find?_eq_none, Prod.forall, mem_toList_iff,
    Bool.not_eq_true]

/-! ## 2. Insertion -/

variable [Std.TransOrd κ]

theorem mem_insertEntry_iff {k : κ} {a : α} {es : List (κ × α)}
    (h : es.Pairwise fun a b => compare a.1 b.1 = .lt) {e : κ × α} :
    e ∈ insertEntry k a es ↔ e = (k, a) ∨ (e ∈ es ∧ e.1 ≠ k) := by
  induction es with
  | nil => simp [insertEntry]
  | cons x rest ih =>
    obtain ⟨k', a'⟩ := x
    obtain ⟨hx, hrest⟩ := List.pairwise_cons.1 h
    have above : ∀ {c : κ}, compare c k' ≠ .gt → ∀ e ∈ rest, e.1 ≠ c := by
      rintro c hc e he rfl
      exact hc (Std.OrientedCmp.gt_of_lt (hx e he))
    unfold insertEntry
    split
    · next hlt =>
      have hne : k ≠ k' := ne_of_compare_ne (by rw [hlt]; decide)
      have := above (c := k) (by rw [hlt]; decide)
      grind
    · next heq =>
      obtain rfl : k = k' := Std.LawfulEqCmp.compare_eq_iff_eq.1 heq
      have := above (c := k) (by rw [heq]; decide)
      grind
    · next hgt =>
      have hne : k ≠ k' := ne_of_compare_ne (by rw [hgt]; decide)
      rw [List.mem_cons, ih hrest]
      grind

@[simp] theorem get?_insert [DecidableEq κ] (m : SortedMap κ α) (k : κ) (a : α) (k' : κ) :
    (m.insert k a).get? k' = if k = k' then some a else m.get? k' := by
  refine Option.ext fun b => ?_
  rw [← mem_toList_iff, insert, mem_insertEntry_iff m.ascending]
  by_cases hk : k = k'
  · simp [hk, eq_comm]
  · simp [hk, Ne.symm hk, mem_toList_iff]

/-- An insertion leaves an entry alone that it neither makes nor replaces. -/
theorem get?_insert_iff [DecidableEq κ] {m : SortedMap κ α} {k k' : κ} {a b : α} (hne : a ≠ b)
    (h : m.get? k ≠ some b) : (m.insert k a).get? k' = some b ↔ m.get? k' = some b := by
  rw [get?_insert]
  split
  · next hk => simpa [hne, hk] using h
  · exact Iff.rfl

omit [Std.LawfulEqOrd κ] [Std.TransOrd κ] in
theorem map_insertEntry (f : α → β) (k : κ) (a : α) (es : List (κ × α)) :
    (insertEntry k a es).map (fun e => (e.1, f e.2)) =
      insertEntry k (f a) (es.map fun e => (e.1, f e.2)) := by
  induction es with
  | nil => rfl
  | cons e es ih =>
    obtain ⟨k', a'⟩ := e
    simp only [List.map_cons, insertEntry]
    split <;> simp [ih]

omit [Std.LawfulEqOrd κ] in
theorem mapValues_insert (f : α → β) (m : SortedMap κ α) (k : κ) (a : α) :
    (m.insert k a).mapValues f = (m.mapValues f).insert k (f a) :=
  ext (map_insertEntry f k a m.toList)

/-- Some entries of a map and some of another one are the same list if they are the same. -/
theorem filter_toList_eq {m n : SortedMap κ α} {p q : κ × α → Bool}
    (h : ∀ k a, m.get? k = some a ∧ p (k, a) = true ↔ n.get? k = some a ∧ q (k, a) = true) :
    m.toList.filter p = n.toList.filter q := by
  have hperm : (m.toList.filter p).Perm (n.toList.filter q) := by
    refine (List.perm_ext_iff_of_nodup (m.nodup_toList.filter p) (n.nodup_toList.filter q)).2 ?_
    intro (k, a)
    rw [List.mem_filter, List.mem_filter, mem_toList_iff, mem_toList_iff, h k a]
  have hanti : ∀ a b : κ × α, a ∈ m.toList.filter p → b ∈ n.toList.filter q →
      compare a.1 b.1 = .lt → compare b.1 a.1 = .lt → a = b := by
    intro a b _ _ hab hba
    have hgt := Std.OrientedCmp.gt_of_lt hba
    rw [hab] at hgt
    cases hgt
  exact hperm.eq_of_pairwise hanti (m.ascending.filter p) (n.ascending.filter q)

/-- Maps that give every key the same value are equal. -/
theorem ext_get? {m n : SortedMap κ α} (h : ∀ k, m.get? k = n.get? k) : m = n := by
  have hall := filter_toList_eq (m := m) (n := n) (p := fun _ => true) (q := fun _ => true)
    fun k a => by rw [h k]
  rw [List.filter_eq_self.2 fun _ _ => rfl, List.filter_eq_self.2 fun _ _ => rfl] at hall
  exact ext hall

/-! ## 3. The values as a whole -/

/-- The values in key order. -/
def values (m : SortedMap κ α) : List α := m.toList.map (·.2)

section Values

omit [Ord κ] [Std.LawfulEqOrd κ] [Std.TransOrd κ] in
theorem perm_append_right_comm (as bs cs : List α) : as ++ bs ++ cs ~ as ++ cs ++ bs := by
  rw [List.append_assoc, List.append_assoc]
  exact List.perm_append_comm.append_left as

variable [DecidableEq κ] {m : SortedMap κ α} {k : κ} {a old : α}

theorem erase_insert (m : SortedMap κ α) (k : κ) (a : α) : (m.insert k a).erase k = m.erase k := by
  refine ext_get? fun k' => ?_
  rw [get?_erase, get?_erase, get?_insert]
  split
  · rfl
  · rfl

theorem erase_of_get?_none (h : m.get? k = none) : m.erase k = m := by
  refine ext_get? fun k' => ?_
  rw [get?_erase]
  split
  · next hk => rw [← hk, h]
  · rfl

omit [Std.TransOrd κ] in
/-- The entries of a map are that of a key and the others. -/
theorem perm_erase (h : m.get? k = some a) : m.toList.Perm ((k, a) :: (m.erase k).toList) := by
  have hnot : (k, a) ∉ (m.erase k).toList := by
    rw [mem_toList_iff, get?_erase, if_pos rfl]
    nofun
  refine (List.perm_ext_iff_of_nodup m.nodup_toList
    (List.nodup_cons.2 ⟨hnot, (m.erase k).nodup_toList⟩)).2 fun (k', b) => ?_
  rw [List.mem_cons, mem_toList_iff, mem_toList_iff, get?_erase, Prod.mk.injEq]
  by_cases hk : k = k'
  · subst hk
    simp [h, eq_comm]
  · simp [hk, Ne.symm hk]

omit [Std.TransOrd κ] in
/-- Removing a key removes its value. -/
theorem values_erase (h : m.get? k = some a) : ((m.erase k).values ++ [a]).Perm m.values := by
  have hfirst : m.values.Perm (a :: (m.erase k).values) := (perm_erase h).map Prod.snd
  exact (List.perm_append_singleton a _).trans hfirst.symm

/-- The values of an insertion are the new value and those of the other keys. -/
theorem values_insert (m : SortedMap κ α) (k : κ) (a : α) :
    (m.insert k a).values.Perm ((m.erase k).values ++ [a]) := by
  have hget : (m.insert k a).get? k = some a := by simp
  have hvalues := values_erase hget
  rw [erase_insert] at hvalues
  exact hvalues.symm

/-- A new key adds its value. -/
theorem values_insert_new (h : m.get? k = none) (a : α) :
    (m.insert k a).values.Perm (m.values ++ [a]) := by
  have hvalues := values_insert m k a
  rw [erase_of_get?_none h] at hvalues
  exact hvalues

/-- Another value takes the place of that of a key. -/
theorem values_insert_old (h : m.get? k = some old) (a : α) :
    ((m.insert k a).values ++ [old]).Perm (m.values ++ [a]) := by
  calc (m.insert k a).values ++ [old]
    _ ~ (m.erase k).values ++ [a] ++ [old] := (values_insert m k a).append_right _
    _ ~ (m.erase k).values ++ [old] ++ [a] := perm_append_right_comm _ _ _
    _ ~ m.values ++ [a] := (values_erase h).append_right _

end Values

/-! ## 4. A map from its entries -/

section Entries

variable [DecidableEq κ]

/-- Entries with different keys, set one after another. -/
theorem get?_foldl_insert {es : List (κ × α)} (hnodup : (es.map Prod.fst).Nodup)
    (m : SortedMap κ α) (k : κ) :
    (es.foldl (fun m e => m.insert e.1 e.2) m).get? k =
      ((es.find? fun e => compare k e.1 == .eq).map (·.2)).or (m.get? k) := by
  induction es generalizing m with
  | nil => rfl
  | cons e es ih =>
    obtain ⟨he, hnodup⟩ := List.nodup_cons.1 hnodup
    rw [List.foldl_cons, ih hnodup, List.find?_cons, get?_insert]
    by_cases hk : e.1 = k
    · have hself : (compare k e.1 == .eq) = true := compare_beq_eq.2 hk.symm
      have hnone : es.find? (fun x => compare k x.1 == .eq) = none := by
        refine List.find?_eq_none.2 fun x hx hkx => he ?_
        rw [hk, compare_beq_eq.1 hkx]
        exact List.mem_map_of_mem hx
      rw [if_pos hk, hself, hnone]
      rfl
    · have hother : (compare k e.1 == .eq) = false :=
        Bool.eq_false_iff.2 fun h => hk (compare_beq_eq.1 h).symm
      rw [if_neg hk, hother]

/-- Setting its entries one after another builds a map. -/
theorem foldl_insert_toList (m : SortedMap κ α) :
    m.toList.foldl (fun n e => n.insert e.1 e.2) ∅ = m :=
  ext_get? fun k => by
    rw [get?_foldl_insert m.nodup_keys, get?_emptyCollection, Option.or_none]
    rfl

end Entries

end Lawful

end CredentialSync.SortedMap
