import CredentialSync.Proofs.Merge.Account
import Mathlib.Data.List.Basic

/-!
# Which remote entities a merge keeps

A merge removes a record to make room for an entity with the same client tag and another natural
key. It never removes a record that took over remote data in place, but it may remove one that it
has added itself for an earlier entity.

* `Standing` is how a record stands against this. The standings under a client tag follow from the
  natural keys alone (`Merge.standings`), and `Fates.standings` says that a merge goes through them.
* `Fates.last_or_gone`: behind a merge the last entity with a natural key has its record, or no
  record has this natural key.
* `merge_keeps_iff`: an entity is kept exactly if its natural key is among the standings at the end,
  which is so for all entities when no two natural keys share a client tag.
-/

namespace CredentialSync

open Attempt

/-! ## 1. Standings -/

/-- How a record stands in a merge: its natural key, and whether it has taken over remote data in
    place. -/
structure Standing where
  key : NaturalKey
  met : Bool
  deriving DecidableEq

namespace Standing

/-- The first record with a natural key takes over remote data. -/
def mark (n : NaturalKey) : List Standing → List Standing
  | [] => []
  | s :: ss => if s.key = n then { s with met := true } :: ss else s :: mark n ss

/-- The first record that has taken over nothing is removed, if there is one. -/
def evict : List Standing → List Standing
  | [] => []
  | s :: ss => if s.met then s :: evict ss else ss

/-- One entity comes with its natural key. -/
def meet (ss : List Standing) (n : NaturalKey) : List Standing :=
  if ss.any (·.key == n) then mark n ss else evict ss ++ [⟨n, false⟩]

theorem mem_keys_mark {n k : NaturalKey} {ss : List Standing} :
    k ∈ (mark n ss).map (·.key) ↔ k ∈ ss.map (·.key) := by
  induction ss with
  | nil => exact Iff.rfl
  | cons s ss ih =>
    unfold mark
    split
    · exact Iff.rfl
    · simp only [List.map_cons, List.mem_cons, ih]

/-- The natural key of an entity stands right behind it. -/
theorem mem_keys_meet (ss : List Standing) (n : NaturalKey) : n ∈ (meet ss n).map (·.key) := by
  unfold meet
  split
  · next h =>
    obtain ⟨s, hs, hn⟩ := List.any_eq_true.1 h
    exact mem_keys_mark.2 (List.mem_map.2 ⟨s, hs, by simpa using hn⟩)
  · simp

/-- A natural key that stands and comes again stays. -/
theorem meet_of_mem {ss : List Standing} {n : NaturalKey} (h : n ∈ ss.map (·.key)) :
    meet ss n = mark n ss := by
  obtain ⟨s, hs, hn⟩ := List.mem_map.1 h
  exact if_pos (List.any_eq_true.2 ⟨s, hs, by simpa using hn⟩)

theorem meet_of_not_mem {ss : List Standing} {n : NaturalKey} (h : n ∉ ss.map (·.key)) :
    meet ss n = evict ss ++ [⟨n, false⟩] := by
  refine if_neg fun hany => h ?_
  obtain ⟨s, hs, hn⟩ := List.any_eq_true.1 hany
  exact List.mem_map.2 ⟨s, hs, by simpa using hn⟩

/-- Entities that all have one natural key leave it standing. -/
theorem mem_keys_foldl {ns : List NaturalKey} {n : NaturalKey} (hns : ∀ k ∈ ns, k = n)
    {ss : List Standing} (h : n ∈ ns ∨ n ∈ ss.map (·.key)) :
    n ∈ (ns.foldl meet ss).map (·.key) := by
  induction ns generalizing ss with
  | nil => exact h.resolve_left List.not_mem_nil
  | cons k ns ih =>
    have hk : k = n := hns k List.mem_cons_self
    subst hk
    exact ih (fun k' hk' => hns k' (List.mem_cons_of_mem _ hk')) (.inr (mem_keys_meet ss k))

end Standing

namespace Merge

/-- The standings under a client tag behind all entities, from the records at the start. -/
def standings (records : SortedMap PrimaryKey Record) (es : List Entity) (tag : String) :
    List Standing :=
  ((es.filter (·.specifics.tag == tag)).map (·.record.naturalKey)).foldl Standing.meet
    ((records.toList.filter (·.2.specifics.tag == tag)).map fun x => ⟨x.2.naturalKey, false⟩)

/-- An entity stands at the end if its natural key is among the standings under its client tag. -/
def Stands (records : SortedMap PrimaryKey Record) (es : List Entity) (e : Entity) : Prop :=
  e.record.naturalKey ∈ (standings records es e.specifics.tag).map (·.key)

instance (records : SortedMap PrimaryKey Record) (es : List Entity) (e : Entity) :
    Decidable (Stands records es e) :=
  inferInstanceAs (Decidable (_ ∈ _))

/-- The last entity with a natural key. -/
def lastWith? (es : List Entity) (n : NaturalKey) : Option Entity :=
  es.reverse.find? (·.record.naturalKey == n)

/-- A natural key is kept: a record holds the data of the last entity with it. -/
def Kept (es : List Entity) (after : SortedMap PrimaryKey Record) (n : NaturalKey) : Prop :=
  ∃ e key, lastWith? es n = some e ∧ after.get? key = some e.record

/-- Every natural key stands if none shares its client tag with another one. -/
theorem stands_of_apart {records : SortedMap PrimaryKey Record} {es : List Entity}
    (h : ∀ e ∈ es, ∀ e' ∈ es, e.specifics.tag = e'.specifics.tag →
      e.record.naturalKey = e'.record.naturalKey) {e : Entity} (he : e ∈ es) :
    Stands records es e := by
  refine Standing.mem_keys_foldl (fun n hn => ?_) (.inl ?_)
  · obtain ⟨e', he', rfl⟩ := List.mem_map.1 hn
    obtain ⟨hmem, htag⟩ := List.mem_filter.1 he'
    exact h e' hmem e he (by simpa using htag)
  · exact List.mem_map.2 ⟨e, List.mem_filter.2 ⟨he, by simp⟩, rfl⟩

end Merge

/-! ## 2. A merge goes through the standings -/

namespace Vault

/-- How the records under some keys stand. -/
def standings (v : Vault) (matched : List PrimaryKey) (keys : List PrimaryKey) : List Standing :=
  keys.filterMap fun key => (v.records.get? key).map fun r => ⟨r.naturalKey, matched.contains key⟩

variable {v v' : Vault} {matched matched' keys : List PrimaryKey}

theorem standings_congr (hget : ∀ key ∈ keys, v'.records.get? key = v.records.get? key)
    (hmatched : ∀ key ∈ keys, matched'.contains key = matched.contains key) :
    v'.standings matched' keys = v.standings matched keys :=
  List.filterMap_congr fun key hkey => by rw [hget key hkey, hmatched key hkey]

theorem standings_append (v : Vault) (matched keys keys' : List PrimaryKey) :
    v.standings matched (keys ++ keys') = v.standings matched keys ++ v.standings matched keys' :=
  List.filterMap_append

theorem standings_cons {key : PrimaryKey} {r : Record} (hr : v.records.get? key = some r) :
    v.standings matched (key :: keys) =
      ⟨r.naturalKey, matched.contains key⟩ :: v.standings matched keys := by
  unfold standings
  rw [List.filterMap_cons, hr]
  rfl

/-- Taking over remote data in place marks the first standing with the natural key. -/
theorem standings_put {r : Record} {key : PrimaryKey} (hnodup : keys.Nodup)
    (hkeys : ∀ k ∈ keys, ∃ r, v.records.get? k = some r)
    (hkey : keys.find? (v.holds r) = some key) :
    (v.put key r).standings (key :: matched) keys =
      Standing.mark r.naturalKey (v.standings matched keys) := by
  induction keys with
  | nil => cases hkey
  | cons k keys ih =>
    obtain ⟨old, hold⟩ := hkeys k List.mem_cons_self
    obtain ⟨hk, hnodup⟩ := List.nodup_cons.1 hnodup
    rw [standings_cons hold, Standing.mark]
    by_cases hholds : v.holds r k = true
    · rw [List.find?_cons_of_pos hholds] at hkey
      cases hkey
      obtain ⟨old', hold', hn⟩ := holds_iff.1 hholds
      rw [hold] at hold'
      cases hold'
      have hrest : (v.put key r).standings (key :: matched) keys = v.standings matched keys := by
        refine standings_congr (fun k hmem => ?_) fun k hmem => ?_
        all_goals have hne : key ≠ k := fun he => hk (he ▸ hmem)
        · simp [hne]
        · simp [Ne.symm hne]
      have hput : (v.put key r).records.get? key = some r := by simp
      rw [standings_cons hput, hrest, if_pos hn, hn]
      simp
    · rw [List.find?_cons_of_neg hholds] at hkey
      have hne : key ≠ k := fun he =>
        hholds (he ▸ List.find?_some hkey)
      have hn : old.naturalKey ≠ r.naturalKey := fun hn => hholds (holds_iff.2 ⟨old, hold, hn⟩)
      have hput : (v.put key r).records.get? k = some old := by simp [hne, hold]
      rw [standings_cons hput, if_neg hn,
        ih hnodup (fun k' hk' => hkeys k' (List.mem_cons_of_mem _ hk')) hkey]
      simp [Ne.symm hne]

/-- Removing the first record that has taken over nothing evicts its standing. -/
theorem standings_drop {key : PrimaryKey} (hnodup : keys.Nodup)
    (hkeys : ∀ k ∈ keys, ∃ r, v.records.get? k = some r)
    (hkey : keys.find? (fun k => !matched.contains k) = some key) :
    (v.drop key).standings matched (keys.filter (· != key)) =
      Standing.evict (v.standings matched keys) := by
  induction keys with
  | nil => cases hkey
  | cons k keys ih =>
    obtain ⟨old, hold⟩ := hkeys k List.mem_cons_self
    obtain ⟨hk, hnodup⟩ := List.nodup_cons.1 hnodup
    rw [standings_cons hold, Standing.evict]
    by_cases hmatched : matched.contains k = true
    · rw [List.find?_cons_of_neg (by simpa using hmatched)] at hkey
      have hne : key ≠ k := fun he => by
        have := List.find?_some hkey
        rw [he, hmatched] at this
        cases this
      have hdrop : (v.drop key).records.get? k = some old := by simp [hne, hold]
      rw [List.filter_cons_of_pos (by simpa using Ne.symm hne), standings_cons hdrop, if_pos hmatched,
        ih hnodup (fun k' hk' => hkeys k' (List.mem_cons_of_mem _ hk')) hkey]
    · rw [List.find?_cons_of_pos (by simpa using hmatched)] at hkey
      cases hkey
      have hall : keys.filter (· != key) = keys :=
        List.filter_eq_self.2 fun k hmem => by
          simpa using fun he : k = key => hk (he ▸ hmem)
      rw [List.filter_cons_of_neg (by simp), hall, if_neg hmatched]
      refine standings_congr (fun k hmem => ?_) fun _ _ => rfl
      have hne : key ≠ k := fun he => hk (he ▸ hmem)
      simp [hne]

/-- Nothing is evicted if all have taken over remote data. -/
theorem evict_standings (hkeys : keys.find? (fun k => !matched.contains k) = none) :
    Standing.evict (v.standings matched keys) = v.standings matched keys := by
  induction keys with
  | nil => rfl
  | cons k keys ih =>
    have hk := List.find?_eq_none.1 hkeys k List.mem_cons_self
    have hkeys' : keys.find? (fun k => !matched.contains k) = none :=
      List.find?_eq_none.2 fun k' hk' => List.find?_eq_none.1 hkeys k' (List.mem_cons_of_mem _ hk')
    unfold standings
    rw [List.filterMap_cons]
    cases v.records.get? k with
    | none => exact ih hkeys'
    | some r =>
      have hmatched : matched.contains k = true := by simpa using hk
      simp only [Option.map_some, Standing.evict, hmatched, if_true]
      exact congrArg _ (ih hkeys')

theorem mem_keys_standings {n : NaturalKey} :
    n ∈ (v.standings matched keys).map (·.key) ↔
      ∃ key ∈ keys, ∃ r, v.records.get? key = some r ∧ r.naturalKey = n := by
  simp only [standings, List.mem_map, List.mem_filterMap, Option.map_eq_some_iff]
  constructor
  · rintro ⟨s, ⟨key, hkey, r, hr, rfl⟩, rfl⟩
    exact ⟨key, hkey, r, hr, rfl⟩
  · rintro ⟨key, hkey, r, hr, rfl⟩
    exact ⟨_, ⟨key, hkey, r, hr, rfl⟩, rfl⟩

/-- A record under another key changes no standing. -/
theorem standings_insertNew {key : PrimaryKey} (hkey : key ∉ keys) (r : Record) :
    (v.insertNew key r).standings matched keys = v.standings matched keys := by
  refine standings_congr (fun k hmem => ?_) fun _ _ => rfl
  have hne : key ≠ k := fun he => hkey (he ▸ hmem)
  simp [hne]

/-- A new record stands last, and has taken over nothing. -/
theorem standings_insertNew_append {key : PrimaryKey} (hkey : key ∉ keys) (hmatched : key ∉ matched)
    (r : Record) : (v.insertNew key r).standings matched (keys ++ [key]) =
      v.standings matched keys ++ [⟨r.naturalKey, false⟩] := by
  have hnew : (v.insertNew key r).records.get? key = some r := by simp
  rw [standings_append, standings_insertNew hkey, standings_cons hnew]
  simp [standings, hmatched]

end Vault

namespace Indexed

variable {m : Merging} {v : Vault} {e : Entity} {old key : PrimaryKey} {tag : String}

/-- The candidates behind an entity that becomes a new record. -/
theorem candidates_added (h : Indexed m v) (hkey : PrimaryKey.next? v.lastKey = some key)
    (tag : String) : (m.countRemoteOnly.note e.specifics.tag key).candidates tag =
      if e.specifics.tag = tag then m.candidates tag ++ [key] else m.candidates tag := by
  have hreplaced : key ∉ m.countRemoteOnly.replaced := (h.not_mem_of_next hkey).2.1
  exact Merging.candidates_note hreplaced tag

/-- The candidates behind an entity that takes the place of a record. -/
theorem candidates_replaced (h : Indexed m v) {r : Record} (hold : v.records.get? old = some r)
    (hkey : PrimaryKey.next? v.lastKey = some key) (tag : String) :
    ({ m.countMatched with replaced := old :: m.replaced }.note e.specifics.tag key).candidates tag =
      if e.specifics.tag = tag then (m.candidates tag).filter (· != old) ++ [key]
      else (m.candidates tag).filter (· != old) := by
  obtain ⟨hnone, hreplaced, -⟩ := h.not_mem_of_next hkey
  have hne : key ≠ old := by
    rintro rfl
    rw [hnone] at hold
    cases hold
  have hfresh : key ∉ old :: m.replaced := List.not_mem_cons_of_ne_of_not_mem hne hreplaced
  rw [← Merging.candidates_replace m old tag]
  exact Merging.candidates_note hfresh tag

/-- A new key has taken over nothing. -/
theorem unmatched_of_next (h : Indexed m v) (hkey : PrimaryKey.next? v.lastKey = some key) :
    key ∉ m.matched := fun hmem => by
  obtain ⟨r, hr⟩ := h.matched key hmem
  rw [(h.not_mem_of_next hkey).1] at hr
  cases hr

theorem resident (h : Indexed m v) : ∀ k ∈ m.candidates tag, ∃ r, v.records.get? k = some r :=
  fun k hk => by
    obtain ⟨r, hr, -⟩ := (h.candidates tag k).1 hk
    exact ⟨r, hr⟩

/-- A resident key is a candidate of one client tag only. -/
theorem not_candidate (h : Indexed m v) {r : Record} (hr : v.records.get? key = some r)
    (htag : r.specifics.tag ≠ tag) : key ∉ m.candidates tag := fun hmem => by
  obtain ⟨r', hr', hrtag⟩ := (h.candidates tag key).1 hmem
  rw [hr] at hr'
  cases hr'
  exact htag hrtag

/-- What an entity meets is no candidate of another client tag. -/
theorem not_candidate_of_meet (h : Indexed m v) (hmeet : m.meet? v e = some key)
    (htag : e.specifics.tag ≠ tag) : key ∉ m.candidates tag := by
  obtain ⟨-, r, hr, hn⟩ := Merging.meet_mem hmeet
  exact h.not_candidate hr fun hrtag => htag ((Record.tag_eq hn).symm.trans hrtag)

/-- What makes way for an entity is no candidate of another client tag. -/
theorem not_candidate_of_victim (h : Indexed m v) (hvictim : m.victim? e = some old)
    (htag : e.specifics.tag ≠ tag) : old ∉ m.candidates tag := by
  obtain ⟨r, hr, hrtag⟩ := (h.candidates _ old).1 (Merging.victim_mem hvictim).1
  exact h.not_candidate hr fun htag' => htag (hrtag.symm.trans htag')

/-- No standing has the natural key of an entity that meets no record. -/
theorem absent (hmeet : m.meet? v e = none) :
    e.record.naturalKey ∉ (v.standings m.matched (m.candidates e.specifics.tag)).map (·.key) :=
  fun hmem => by
    obtain ⟨k, hk, r, hr, hn⟩ := Vault.mem_keys_standings.1 hmem
    exact Merging.meet_none hmeet hk hr hn

/-- What an overwritten record does to the standings. -/
theorem standings_overwrote (h : Indexed m v) (hmeet : m.meet? v e = some key) (tag : String) :
    (v.put key e.record).standings (key :: m.matched) (m.candidates tag) =
      if e.specifics.tag = tag then
        Standing.meet (v.standings m.matched (m.candidates tag)) e.record.naturalKey
      else v.standings m.matched (m.candidates tag) := by
  obtain ⟨hcandidate, old, hold, hn⟩ := Merging.meet_mem hmeet
  by_cases htag : e.specifics.tag = tag
  · subst htag
    rw [if_pos rfl, Standing.meet_of_mem
      (Vault.mem_keys_standings.2 ⟨key, hcandidate, old, hold, hn⟩)]
    exact Vault.standings_put (h.nodup _) h.resident hmeet
  · have hnot : key ∉ m.candidates tag := h.not_candidate_of_meet hmeet htag
    rw [if_neg htag]
    refine Vault.standings_congr (fun k hk => ?_) fun k hk => ?_
    all_goals have hne : key ≠ k := fun he => hnot (he ▸ hk)
    · simp [hne]
    · simp [Ne.symm hne]

/-- What a replaced record does to the standings. -/
theorem standings_replaced (h : Indexed m v) (hmeet : m.meet? v e = none)
    (hvictim : m.victim? e = some old) (hkey : PrimaryKey.next? v.lastKey = some key)
    (tag : String) :
    ((v.drop old).insertNew key e.record).standings m.matched
        (if e.specifics.tag = tag then (m.candidates tag).filter (· != old) ++ [key]
          else (m.candidates tag).filter (· != old)) =
      if e.specifics.tag = tag then
        Standing.meet (v.standings m.matched (m.candidates tag)) e.record.naturalKey
      else v.standings m.matched (m.candidates tag) := by
  have hfresh : key ∉ (m.candidates tag).filter (· != old) := fun hmem =>
    (h.not_mem_of_next hkey).2.2 tag (List.mem_filter.1 hmem).1
  by_cases htag : e.specifics.tag = tag
  · subst htag
    rw [if_pos rfl, if_pos rfl, Standing.meet_of_not_mem (absent hmeet),
      Vault.standings_insertNew_append hfresh (h.unmatched_of_next hkey),
      Vault.standings_drop (h.nodup _) h.resident hvictim]
  · have hnot : old ∉ m.candidates tag := h.not_candidate_of_victim hvictim htag
    have hne : ∀ k ∈ m.candidates tag, old ≠ k := fun k hk he => hnot (he ▸ hk)
    rw [if_neg htag, if_neg htag, Vault.standings_insertNew hfresh,
      List.filter_bne_eq_self_of_not_mem hnot]
    exact Vault.standings_congr (fun k hk => by simp [hne k hk]) fun _ _ => rfl

/-- What an added record does to the standings. -/
theorem standings_added (h : Indexed m v) (hmeet : m.meet? v e = none) (hvictim : m.victim? e = none)
    (hkey : PrimaryKey.next? v.lastKey = some key) (tag : String) :
    (v.insertNew key e.record).standings m.matched
        (if e.specifics.tag = tag then m.candidates tag ++ [key] else m.candidates tag) =
      if e.specifics.tag = tag then
        Standing.meet (v.standings m.matched (m.candidates tag)) e.record.naturalKey
      else v.standings m.matched (m.candidates tag) := by
  have hfresh := (h.not_mem_of_next hkey).2.2 tag
  by_cases htag : e.specifics.tag = tag
  · subst htag
    rw [if_pos rfl, if_pos rfl, Standing.meet_of_not_mem (absent hmeet),
      Vault.standings_insertNew_append hfresh (h.unmatched_of_next hkey),
      Vault.evict_standings hvictim]
  · rw [if_neg htag, if_neg htag, Vault.standings_insertNew hfresh]

end Indexed

/-- **An entity changes the standings under its client tag as `Standing.meet` says, and no others.** -/
theorem Fated.standings {m m' : Merging} {v v' : Vault} {e : Entity} {f : Fate}
    (h : Fated m v e f v' m') (hi : Indexed m v) (tag : String) :
    v'.standings m'.matched (m'.candidates tag) =
      if e.specifics.tag = tag then
        Standing.meet (v.standings m.matched (m.candidates tag)) e.record.naturalKey
      else v.standings m.matched (m.candidates tag) := by
  cases h with
  | overwrote hmeet => exact hi.standings_overwrote hmeet tag
  | replaced hmeet hvictim hold hkey =>
    rw [hi.candidates_replaced hold hkey]
    exact hi.standings_replaced hmeet hvictim hkey tag
  | added hmeet hvictim hkey =>
    rw [hi.candidates_added hkey]
    exact hi.standings_added hmeet hvictim hkey tag

/-- The standings behind all entities. -/
theorem Fates.standings {m m' : Merging} {v v' : Vault} {fs : List (Entity × Fate)}
    (h : Fates m v fs v' m') (hi : Indexed m v) (tag : String) :
    v'.standings m'.matched (m'.candidates tag) =
      (((fs.map (·.1)).filter (·.specifics.tag == tag)).map (·.record.naturalKey)).foldl
        Standing.meet (v.standings m.matched (m.candidates tag)) := by
  induction h with
  | nil => rfl
  | @cons m m' m'' v v' v'' e f fs hf _ ih =>
    rw [ih (hf.indexed hi), hf.standings hi, List.map_cons, List.filter_cons]
    by_cases htag : e.specifics.tag = tag <;> simp [htag]

/-! ## 3. What is left of an entity -/

namespace Fates

variable {m m' : Merging} {v v' : Vault} {fs pre post : List (Entity × Fate)} {e : Entity}
  {f : Fate} {key : PrimaryKey} {r : Record}

/-- A record behind a merge is that of an entity, or was there before. -/
theorem origin_of_resident (h : Fates m v fs v' m') (hr : v'.records.get? key = some r) :
    (∃ e ∈ fs.map (·.1), e.record = r) ∨ v.records.get? key = some r := by
  induction h with
  | nil => exact .inr hr
  | @cons _ _ _ v v₁ _ e f fs hf _ ih =>
    have hstep : v₁.records.get? key = some r → e.record = r ∨ v.records.get? key = some r := by
      cases hf with
      | @overwrote k =>
        intro hr'
        by_cases hk : k = key <;> simp [hk] at hr' <;> simp [hr']
      | @replaced old k =>
        intro hr'
        by_cases hk : k = key <;> by_cases hold : old = key <;> simp [hk, hold] at hr' <;>
          simp [hr']
      | @added k =>
        intro hr'
        by_cases hk : k = key <;> simp [hk] at hr' <;> simp [hr']
    rcases ih hr with ⟨e', he', rfl⟩ | hr'
    · exact .inl ⟨e', List.mem_cons_of_mem _ he', rfl⟩
    · exact (hstep hr').imp_left fun he => ⟨e, List.mem_cons_self, he⟩

/-- A record that is not removed stays as it is if no entity comes with its natural key. -/
theorem stays (h : Fates m v fs v' m') (hv : v.Sound) (hr : v.records.get? key = some r)
    (hremoved : key ∉ removed fs) (hfs : ∀ e ∈ fs.map (·.1), e.record.naturalKey ≠ r.naturalKey) :
    v'.records.get? key = some r := by
  obtain ⟨hget, hnatural⟩ := h.overwritten (hv key r hr) hr hremoved
  have hnone : applied fs key = [] := by
    refine List.eq_nil_iff_forall_not_mem.2 fun e he => ?_
    obtain ⟨x, hx, rfl⟩ := List.mem_map.1 he
    exact hfs x.1 (List.mem_map.2 ⟨x, (List.mem_filter.1 hx).1, rfl⟩) (hnatural x.1 he)
  rw [hget, hnone]
  rfl

/-- An entity that met no record is there at the end, or nothing with its natural key is. -/
theorem stays_or_gone {w : Vault} (h : Fates m (w.insertNew key e.record) fs v' m')
    (hi : Indexed m (w.insertNew key e.record))
    (hw : ∀ k r, w.records.get? k = some r → r.naturalKey ≠ e.record.naturalKey)
    (hfs : ∀ e' ∈ fs.map (·.1), e'.record.naturalKey ≠ e.record.naturalKey) :
    (∃ key, v'.records.get? key = some e.record) ∨
      ∀ key r, v'.records.get? key = some r → r.naturalKey ≠ e.record.naturalKey := by
  by_cases hremoved : key ∈ removed fs
  · right
    intro k r hr hn
    rcases h.origin_of_resident hr with ⟨e', he', rfl⟩ | hr'
    · exact hfs e' he' hn
    · have hne : key ≠ k := by
        rintro rfl
        have hget : (w.insertNew key e.record).records.get? key = some e.record := by simp
        rw [(h.removed_once (Int64.le_refl key) hget hremoved).2] at hr
        cases hr
      exact hw k r (by simpa [hne] using hr') hn
  · exact .inl ⟨key, h.stays hi.sound (by simp) hremoved hfs⟩

/-- **The last entity with a natural key has its record, or no record has the natural key.** -/
theorem last_or_gone (h : Fates m v (pre ++ (e, f) :: post) v' m') (hi : Indexed m v)
    (hpost : ∀ e' ∈ post.map (·.1), e'.record.naturalKey ≠ e.record.naturalKey) :
    (∃ key, v'.records.get? key = some e.record) ∨
      ∀ key r, v'.records.get? key = some r → r.naturalKey ≠ e.record.naturalKey := by
  obtain ⟨m₁, v₁, hpre, hrest⟩ := split h
  have hi₁ := hpre.indexed hi
  cases hrest with
  | cons hf hs =>
    have hi₂ := hf.indexed hi₁
    -- An entity that met no record has found none with its natural key.
    have hnone : m₁.meet? v₁ e = none →
        ∀ k r, v₁.records.get? k = some r → r.naturalKey ≠ e.record.naturalKey :=
      fun hmeet k r hr hn =>
        Merging.meet_none hmeet
          ((hi₁.candidates _ k).2 ⟨r, hr, (Record.tag_eq hn).trans e.tag_record⟩) hr hn
    cases hf with
    | @overwrote k hmeet =>
      have hremoved : k ∉ removed post := hs.not_removed_of_matched List.mem_cons_self
      exact .inl ⟨k, hs.stays hi₂.sound (by simp) hremoved hpost⟩
    | @replaced old k r hmeet =>
      refine hs.stays_or_gone hi₂ (fun key r hr => hnone hmeet key r ?_) hpost
      rw [Vault.records_drop, SortedMap.get?_erase] at hr
      split at hr
      · cases hr
      · exact hr
    | added hmeet => exact hs.stays_or_gone hi₂ (hnone hmeet) hpost

end Fates

namespace Merge

variable {es : List Entity} {n : NaturalKey} {e : Entity}

/-- Behind the last entity with a natural key comes none with it. -/
theorem split_of_lastWith (h : lastWith? es n = some e) :
    e.record.naturalKey = n ∧ ∃ pre post, es = pre ++ e :: post ∧
      ∀ e' ∈ post, e'.record.naturalKey ≠ n := by
  obtain ⟨hn, as, bs, hsplit, has⟩ := List.find?_eq_some_iff_append.1 h
  refine ⟨by simpa using hn, bs.reverse, as.reverse, ?_, fun e' he' => ?_⟩
  · rw [← List.reverse_reverse es, hsplit]
    simp
  · simpa using has e' (List.mem_reverse.1 he')

theorem lastWith_of_mem (he : e ∈ es) : ∃ e', lastWith? es e.record.naturalKey = some e' := by
  cases h : lastWith? es e.record.naturalKey with
  | some e' => exact ⟨e', rfl⟩
  | none => simpa using List.find?_eq_none.1 h e (List.mem_reverse.2 he)

end Merge

namespace Device

variable {π : Type} [Processor π] {d d' : Device π} {remote : List RemoteChange}
  {summary : MergeSummary} {fs : List (Entity × Fate)} {m : Merging}

/-- A natural key stands at the end exactly if a record has it. -/
theorem Merged.stands_iff (h : Merged d remote summary fs m d') (hsound : d.store.vault.Sound)
    {e : Entity} :
    Merge.Stands d.store.vault.records (remote.filterMap (·.data)) e ↔
      ∃ key r, d'.store.vault.records.get? key = some r ∧ r.naturalKey = e.record.naturalKey := by
  have hi : Indexed (.ofRecords d.store.vault.records) d.store.vault := .ofRecords hsound
  have hstart : d.store.vault.standings (Merging.ofRecords d.store.vault.records).matched
      ((Merging.ofRecords d.store.vault.records).candidates e.specifics.tag) =
      (d.store.vault.records.toList.filter (·.2.specifics.tag == e.specifics.tag)).map
        fun x => ⟨x.2.naturalKey, false⟩ := by
    rw [Merging.candidates_ofRecords, (Merging.ofRecords_start _).1, Vault.standings,
      List.filterMap_map, ← List.filterMap_eq_map]
    refine List.filterMap_congr fun x hx => ?_
    have hget := SortedMap.mem_toList_iff.1 (List.mem_filter.1 hx).1
    simp [hget]
  have hend := h.fates.standings hi e.specifics.tag
  rw [hstart, h.data] at hend
  rw [Merge.Stands, Merge.standings, ← hend, Vault.mem_keys_standings]
  constructor
  · rintro ⟨key, -, r, hr, hn⟩
    exact ⟨key, r, hr, hn⟩
  · rintro ⟨key, r, hr, hn⟩
    have htag : r.specifics.tag = e.specifics.tag := (Record.tag_eq hn).trans e.tag_record
    exact ⟨key, ((h.fates.indexed hi).candidates _ key).2 ⟨r, hr, htag⟩, r, hr, hn⟩

/-- The natural key of an entity is kept exactly if it stands at the end. -/
theorem Merged.kept_iff (h : Merged d remote summary fs m d') (hsound : d.store.vault.Sound)
    {e : Entity} (he : e ∈ remote.filterMap (·.data)) :
    Merge.Kept (remote.filterMap (·.data)) d'.store.vault.records e.record.naturalKey ↔
      Merge.Stands d.store.vault.records (remote.filterMap (·.data)) e := by
  rw [h.stands_iff hsound]
  constructor
  · rintro ⟨e', key, hlast, hget⟩
    exact ⟨key, e'.record, hget, (Merge.split_of_lastWith hlast).1⟩
  · rintro ⟨key, r, hr, hn⟩
    obtain ⟨e', hlast⟩ := Merge.lastWith_of_mem he
    obtain ⟨hn', pre, post, hsplit, hpost⟩ := Merge.split_of_lastWith hlast
    rw [← h.data] at hsplit
    obtain ⟨fs₁, fs₂, rfl, rfl, hfs₂⟩ := List.map_eq_append_iff.1 hsplit
    obtain ⟨⟨e'', f⟩, fs₃, rfl, rfl, rfl⟩ := List.map_eq_cons_iff.1 hfs₂
    rcases h.fates.last_or_gone (.ofRecords hsound) (hn' ▸ hpost) with ⟨k, hk⟩ | hgone
    · exact ⟨e'', k, hlast, hk⟩
    · exact absurd (hn.trans hn'.symm) (hgone key r hr)

/-- **What a merge keeps.** An entity is kept exactly if its natural key stands at the end, and all
    are kept if no two natural keys share a client tag. -/
theorem merge_keeps_iff (hquiet : d.store.Quiet) (hsound : d.store.vault.Sound)
    (h : (merge remote).perform d = (.ok summary, d')) :
    (∀ e ∈ remote.filterMap (·.data),
      (Merge.Kept (remote.filterMap (·.data)) d'.store.vault.records e.record.naturalKey ↔
        Merge.Stands d.store.vault.records (remote.filterMap (·.data)) e)) ∧
    ((∀ e ∈ remote.filterMap (·.data), ∀ e' ∈ remote.filterMap (·.data),
        e.specifics.tag = e'.specifics.tag → e.record.naturalKey = e'.record.naturalKey) →
      ∀ e ∈ remote.filterMap (·.data),
        Merge.Kept (remote.filterMap (·.data)) d'.store.vault.records e.record.naturalKey) := by
  obtain ⟨fs, m, hmerged⟩ := merge_ok hquiet hsound h
  refine ⟨fun e he => hmerged.kept_iff hsound he, fun hapart e he => ?_⟩
  exact (hmerged.kept_iff hsound he).2 (Merge.stands_of_apart hapart he)

/-- A device without records. -/
def blank : Device Recorder :=
  { store := .table {}, processor := {}, notifier := .ofCapacity 1 }

theorem quiet_blank : blank.store.Quiet := rfl

theorem sound_blank : blank.store.vault.Sound := Store.Reached.table.sound.vault

end Device

/-- A sample entity at an origin. -/
def Entity.sampleAt (origin : String) : Entity :=
  .ofSpecifics { (Record.sample "abc").specifics with origin := origin }

/-- Two entities with one client tag and two natural keys. -/
def RemoteChange.colliding : List RemoteChange :=
  [.add (.sampleAt "http://x.com"), .add (.sampleAt "http://x.com/")]

namespace Device

theorem merge_colliding :
    (merge RemoteChange.colliding).perform blank =
      (.ok { matched := 1, remoteOnly := 1 }, ((merge RemoteChange.colliding).perform blank).2) :=
  ok_of_toOption (by decide +kernel)

theorem merge_keeps_iff_colliding :
    blank.store.Quiet ∧ blank.store.vault.Sound ∧
      ∃ summary d', (merge RemoteChange.colliding).perform blank = (.ok summary, d') ∧
        ∀ e ∈ RemoteChange.colliding.filterMap (·.data),
          (Merge.Kept (RemoteChange.colliding.filterMap (·.data)) d'.store.vault.records
              e.record.naturalKey ↔
            Merge.Stands blank.store.vault.records (RemoteChange.colliding.filterMap (·.data)) e) :=
  ⟨quiet_blank, sound_blank, _, _, merge_colliding,
    (merge_keeps_iff quiet_blank sound_blank merge_colliding).1⟩

/-- The second entity drives out the first. -/
theorem colliding_not_kept :
    ∃ summary d', (merge RemoteChange.colliding).perform blank = (.ok summary, d') ∧
      Entity.sampleAt "http://x.com" ∈ RemoteChange.colliding.filterMap (·.data) ∧
      ¬ Merge.Kept (RemoteChange.colliding.filterMap (·.data)) d'.store.vault.records
        (Entity.sampleAt "http://x.com").record.naturalKey := by
  obtain ⟨fs, m, hmerged⟩ := merge_ok quiet_blank sound_blank merge_colliding
  refine ⟨_, _, merge_colliding, List.mem_cons_self, fun hkept => ?_⟩
  have hstands := (hmerged.kept_iff sound_blank List.mem_cons_self).1 hkept
  revert hstands
  decide +kernel

end Device

end CredentialSync
