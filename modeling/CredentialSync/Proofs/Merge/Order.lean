import CredentialSync.Proofs.Merge.Kept
import CredentialSync.Proofs.Merge.Success
import CredentialSync.Proofs.Mirror.Overheard
import Mathlib.Data.List.Find
import Mathlib.Data.List.Nodup

/-!
# The order of remote entities

Entities with different client tags have nothing to do with each other in a merge. What awaits an entity
(`Merging.awaits`) depends on the candidates of its client tag, and an entity with another tag leaves
these alone (`Fated.spares`). So each of some entities with different tags meets the fate that awaited
it at the start, whatever came before it, but for the key that it may be given (`Fates.awaited`).

Two merges of the same entities in different orders are therefore `Fates.Alike`: their fates are the
same up to order and to the keys given out. This fixes the counts, which records are met, what becomes of
them (`Fates.Alike.get?_eq`), and what records there are in the end (`Fates.Alike.values_perm`).

`Device.merge_order` collects this for merges of a device.
-/

namespace CredentialSync

open Attempt Work
open scoped List

/-! ## 1. What awaits an entity -/

/-- The fate without the key that it adds a record under. -/
def Fate.keyless : Fate → Fate
  | .overwrote key => .overwrote key
  | .added _ removed => .added 0 removed

@[simp] theorem Fate.overwrittenKey?_keyless (f : Fate) :
    f.keyless.overwrittenKey? = f.overwrittenKey? := by
  cases f <;> rfl

@[simp] theorem Fate.removedKey?_keyless (f : Fate) : f.keyless.removedKey? = f.removedKey? := by
  cases f with
  | overwrote key => rfl
  | added key removed? => cases removed? <;> rfl

/-- Whether the entity of a fate is counted as matched. -/
def Fate.isMatch : Fate → Bool
  | .overwrote _ => true
  | .added _ removed => removed.isSome

@[simp] theorem Fate.isMatch_keyless (f : Fate) : f.keyless.isMatch = f.isMatch := by
  cases f <;> rfl

/-- The entity of which a processor is told the storage key. -/
def ProcessorCall.keyed? : ProcessorCall → Option Entity
  | .assignKey _ e => some e
  | _ => none

/-- The fate that awaits an entity, without the key that it may be given. -/
def Merging.awaits (m : Merging) (v : Vault) (e : Entity) : Fate :=
  match m.meet? v e with
  | some key => .overwrote key
  | none => .added 0 ((m.victim? e).bind fun old => (v.records.get? old).map fun r => (old, r))

section Step

variable {m m' : Merging} {v v' : Vault} {e e' : Entity} {f : Fate} {tag : String}

/-- An entity meets the fate that awaits it. -/
theorem Fated.keyless (h : Fated m v e f v' m') : f.keyless = m.awaits v e := by
  unfold Merging.awaits
  cases h with
  | overwrote hmeet => rw [hmeet]; rfl
  | replaced hmeet hvictim hold => simp [hmeet, hvictim, hold, Fate.keyless]
  | added hmeet hvictim => simp [hmeet, hvictim, Fate.keyless]

/-- **An entity leaves the candidates of other client tags alone.** -/
theorem Fated.spares (h : Fated m v e f v' m') (hi : Indexed m v) (htag : tag ≠ e.specifics.tag) :
    m'.candidates tag = m.candidates tag ∧
      ∀ k ∈ m.candidates tag, v'.records.get? k = v.records.get? k ∧
        m'.matched.contains k = m.matched.contains k := by
  have hget : ∀ k ∈ m.candidates tag, v'.records.get? k = v.records.get? k := by
    intro k hk
    obtain ⟨r, hr, hrtag⟩ := (hi.candidates tag k).1 hk
    have hne : r.specifics.tag ≠ e.specifics.tag := by
      rw [hrtag]
      exact htag
    rw [hr, (h.get?_iff hi hne k).2 hr]
  have htag' : e.specifics.tag ≠ tag := Ne.symm htag
  cases h with
  | @overwrote key hmeet =>
    have hnot : key ∉ m.candidates tag := hi.not_candidate_of_meet hmeet htag'
    refine ⟨rfl, fun k hk => ⟨hget k hk, ?_⟩⟩
    have hne : k ≠ key := fun he => hnot (he ▸ hk)
    simp [hne]
  | @replaced old key r hmeet hvictim hold hkey =>
    have hnot : old ∉ m.candidates tag := hi.not_candidate_of_victim hvictim htag'
    refine ⟨?_, fun k hk => ⟨hget k hk, rfl⟩⟩
    rw [hi.candidates_replaced hold hkey, if_neg htag', List.filter_bne_eq_self_of_not_mem hnot]
  | added hmeet hvictim hkey =>
    refine ⟨?_, fun k hk => ⟨hget k hk, rfl⟩⟩
    rw [hi.candidates_added hkey, if_neg htag']

/-- **What awaits an entity stays the same while entities with other client tags come.** -/
theorem Fated.awaits (h : Fated m v e f v' m') (hi : Indexed m v)
    (htag : e'.specifics.tag ≠ e.specifics.tag) : m'.awaits v' e' = m.awaits v e' := by
  obtain ⟨hcandidates, hspared⟩ := h.spares hi htag
  have hmeet : m'.meet? v' e' = m.meet? v e' := by
    unfold Merging.meet?
    rw [hcandidates]
    refine List.find?_congr fun k hk => ?_
    rw [Vault.holds, Vault.holds, (hspared k hk).1]
  have hvictim : m'.victim? e' = m.victim? e' := by
    unfold Merging.victim? Merging.unmatched?
    rw [hcandidates]
    exact List.find?_congr fun k hk => by rw [(hspared k hk).2]
  unfold Merging.awaits
  rw [hmeet, hvictim]
  cases m.meet? v e' with
  | some key => rfl
  | none =>
    cases hold : m.victim? e' with
    | none => rfl
    | some old =>
      simp only [Option.bind_some]
      rw [(hspared old (Merging.victim_mem hold).1).1]

/-- The records that make way for an entity, whether they are overwritten or removed. -/
def Fate.displaced (v : Vault) : Fate → List Record
  | .overwrote key => (v.records.get? key).toList
  | .added _ removed => (removed.map (·.2)).toList

@[simp] theorem Fate.displaced_keyless (f : Fate) (v : Vault) :
    f.keyless.displaced v = f.displaced v := by
  cases f <;> rfl

/-- **An entity joins the records, and what makes way for it leaves them.** -/
theorem Fated.balance (h : Fated m v e f v' m') (hi : Indexed m v) :
    (v'.records.values ++ f.displaced v).Perm (v.records.values ++ [e.record]) := by
  cases h with
  | overwrote hmeet =>
    obtain ⟨-, old, hold, -⟩ := Merging.meet_mem hmeet
    rw [Fate.displaced, hold]
    exact SortedMap.values_insert_old hold e.record
  | @replaced old key r hmeet hvictim hold hkey =>
    have hnone : (v.drop old).records.get? key = none := by
      rw [Vault.records_drop, SortedMap.get?_erase, (hi.not_mem_of_next hkey).1, ite_self]
    have hinsert := SortedMap.values_insert_new hnone e.record
    calc ((v.drop old).records.insert key e.record).values ++ [r]
      _ ~ (v.drop old).records.values ++ [e.record] ++ [r] := hinsert.append_right _
      _ ~ (v.drop old).records.values ++ [r] ++ [e.record] := SortedMap.perm_append_right_comm _ _ _
      _ ~ v.records.values ++ [e.record] := (SortedMap.values_erase hold).append_right _
  | added hmeet hvictim hkey =>
    rw [Fate.displaced, Option.map_none, Option.toList_none, List.append_nil]
    exact SortedMap.values_insert_new (hi.not_mem_of_next hkey).1 e.record

end Step

namespace Fates

variable {m m' n' : Merging} {v v' w' : Vault} {fs gs : List (Entity × Fate)} {key : PrimaryKey}

/-- **Entities with different client tags meet the fates that awaited them at the start.** -/
theorem awaited (h : Fates m v fs v' m') (hi : Indexed m v)
    (htags : ((fs.map (·.1)).map (·.specifics.tag)).Nodup) :
    ∀ x ∈ fs, x.2.keyless = m.awaits v x.1 := by
  induction h with
  | nil => exact List.forall_mem_nil _
  | @cons m m₁ _ v v₁ _ e f fs hf _ ih =>
    obtain ⟨hfirst, htags⟩ := List.nodup_cons.1 htags
    refine List.forall_mem_cons.2 ⟨hf.keyless, fun x hx => ?_⟩
    have hne : x.1.specifics.tag ≠ e.specifics.tag := fun he =>
      hfirst (List.mem_map.2 ⟨x.1, List.mem_map_of_mem hx, he⟩)
    rw [ih (hf.indexed hi) htags x hx, hf.awaits hi hne]

/-! ## 2. Fates that are alike -/

/-- The fates are the same, up to their order and the keys given out. -/
def Alike (fs gs : List (Entity × Fate)) : Prop :=
  (fs.map fun x => (x.1, x.2.keyless)).Perm (gs.map fun x => (x.1, x.2.keyless))

/-- **The order of entities with different client tags plays no part in their fates.** -/
theorem alike (h : Fates m v fs v' m') (h' : Fates m v gs w' n') (hi : Indexed m v)
    (htags : ((fs.map (·.1)).map (·.specifics.tag)).Nodup)
    (hperm : (fs.map (·.1)).Perm (gs.map (·.1))) : Alike fs gs := by
  have hmap : ∀ hs : List (Entity × Fate), (∀ x ∈ hs, x.2.keyless = m.awaits v x.1) →
      (hs.map fun x => (x.1, x.2.keyless)) = (hs.map (·.1)).map fun e => (e, m.awaits v e) := by
    intro hs hall
    rw [List.map_map]
    exact List.map_congr_left fun x hx => by rw [hall x hx]; rfl
  have htags' : ((gs.map (·.1)).map (·.specifics.tag)).Nodup := (hperm.map _).nodup_iff.1 htags
  unfold Alike
  rw [hmap fs (h.awaited hi htags), hmap gs (h'.awaited hi htags')]
  exact hperm.map _

namespace Alike

variable {β : Type}

/-- What is collected of fates, whatever keys were given out, does not depend on their order. -/
theorem flatMap (h : Alike fs gs) {g : Entity × Fate → List β}
    (hg : ∀ e f, g (e, f.keyless) = g (e, f)) : (fs.flatMap g).Perm (gs.flatMap g) := by
  have hall := List.Perm.flatMap_right g h
  rw [List.flatMap_map, List.flatMap_map] at hall
  simpa only [hg] using hall

/-- As many entities meet a fate with some property, whatever keys were given out. -/
theorem countP_eq (h : Alike fs gs) {p : Fate → Bool} (hp : ∀ f, p f.keyless = p f) :
    (fs.countP fun x => p x.2) = gs.countP fun x => p x.2 := by
  have hall := List.Perm.countP_eq (fun x : Entity × Fate => p x.2) h
  rw [List.countP_map, List.countP_map] at hall
  simpa only [Function.comp_def, hp] using hall

/-- The same entities are applied to a record. -/
theorem applied (h : Alike fs gs) (key : PrimaryKey) :
    (Fates.applied fs key).Perm (Fates.applied gs key) := by
  have hall := (List.Perm.filter (fun x : Entity × Fate => x.2.overwrittenKey? == some key) h).map
    Prod.fst
  rw [List.filter_map, List.filter_map, List.map_map, List.map_map] at hall
  simp only [Function.comp_def, Fate.overwrittenKey?_keyless] at hall
  exact hall

/-- The same records are removed. -/
theorem removed (h : Alike fs gs) : (Fates.removed fs).Perm (Fates.removed gs) := by
  have hall := List.Perm.filterMap (fun x : Entity × Fate => x.2.removedKey?) h
  rw [List.filterMap_map, List.filterMap_map] at hall
  simp only [Function.comp_def, Fate.removedKey?_keyless] at hall
  exact hall

/-- The processor is told keys for the same entities. -/
theorem keyed (h : Alike fs gs) : ((Merge.callsOf fs).filterMap (·.keyed?)).Perm
    ((Merge.callsOf gs).filterMap (·.keyed?)) := by
  unfold Merge.callsOf
  rw [List.filterMap_flatMap, List.filterMap_flatMap]
  refine h.flatMap fun e f => ?_
  cases f <;> rfl

end Alike

/-! ## 3. What fates alike have in common -/

/-- The counts behind some fates. -/
theorem summary_eq (h : Fates m v fs v' m') : m'.summary = { m.summary with
    matched := m.summary.matched + fs.countP (·.2.isMatch)
    remoteOnly := m.summary.remoteOnly + fs.countP (!·.2.isMatch) } := by
  induction h with
  | nil => rfl
  | cons hf _ ih =>
    rw [ih, List.countP_cons, List.countP_cons]
    cases hf <;>
      simp [Fate.isMatch, Merging.countMatched, Merging.countRemoteOnly, Merging.note] <;> omega

/-- The counts are the same. -/
theorem Alike.summary_eq (hsame : Alike fs gs) (h : Fates m v fs v' m') (h' : Fates m v gs w' n') :
    n'.summary = m'.summary := by
  rw [h.summary_eq, h'.summary_eq, hsame.countP_eq Fate.isMatch_keyless,
    hsame.countP_eq (p := fun f => !f.isMatch) fun f => by rw [Fate.isMatch_keyless]]

/-- Of entities with different client tags at most one is applied to a record. -/
theorem eq_of_applied (h : Fates m v fs v' m') (hle : key ≤ v.lastKey) {r : Record}
    (hr : v.records.get? key = some r) (hremoved : key ∉ removed fs)
    (htags : ((fs.map (·.1)).map (·.specifics.tag)).Nodup) {e e' : Entity} (he : e ∈ applied fs key)
    (he' : e' ∈ applied fs key) : e = e' := by
  have hn := (h.overwritten hle hr hremoved).2
  have htag : e.specifics.tag = e'.specifics.tag :=
    e.tag_record.symm.trans ((Record.tag_eq ((hn e he).trans (hn e' he').symm)).trans e'.tag_record)
  have hsub : applied fs key ⊆ fs.map (·.1) := (List.filter_sublist.map _).subset
  exact List.inj_on_of_nodup_map htags (hsub he) (hsub he') htag

/-- **A record that was resident before is the same afterwards.** -/
theorem Alike.get?_eq (hsame : Alike fs gs) (h : Fates m v fs v' m') (h' : Fates m v gs w' n')
    (hv : v.Sound) (htags : ((fs.map (·.1)).map (·.specifics.tag)).Nodup) {r : Record}
    (hr : v.records.get? key = some r) : w'.records.get? key = v'.records.get? key := by
  have hle := hv key r hr
  by_cases hremoved : key ∈ Fates.removed fs
  · rw [(h.removed_once hle hr hremoved).2,
      (h'.removed_once hle hr (hsame.removed.mem_iff.1 hremoved)).2]
  · have hremoved' : key ∉ Fates.removed gs := fun hmem => hremoved (hsame.removed.mem_iff.2 hmem)
    have hany : ∀ es : List Entity, es.Pairwise fun _ _ => True := fun _ =>
      List.pairwise_of_forall fun _ _ => trivial
    have happlied : Fates.applied fs key = Fates.applied gs key :=
      (hsame.applied key).eq_of_pairwise
        (fun _ _ he he' _ _ =>
          h.eq_of_applied hle hr hremoved htags he ((hsame.applied key).mem_iff.2 he'))
        (hany _) (hany _)
    rw [(h.overwritten hle hr hremoved).1, (h'.overwritten hle hr hremoved').1, happlied]

/-! ## 4. The records in the end -/

/-- What entities displace was there before one with another client tag came. -/
theorem displaced_before {m₁ : Merging} {v₁ : Vault} {e : Entity} {f : Fate}
    (hf : Fated m v e f v₁ m₁) (hs : Fates m₁ v₁ fs v' m') (hi : Indexed m v)
    (htags : ((fs.map (·.1)).map (·.specifics.tag)).Nodup)
    (hfirst : e.specifics.tag ∉ (fs.map (·.1)).map (·.specifics.tag)) :
    fs.flatMap (·.2.displaced v₁) = fs.flatMap (·.2.displaced v) := by
  refine List.flatMap_congr fun x hx => ?_
  have hne : x.1.specifics.tag ≠ e.specifics.tag := fun he =>
    hfirst (List.mem_map.2 ⟨x.1, List.mem_map_of_mem hx, he⟩)
  obtain ⟨hcandidates, hspared⟩ := hf.spares hi hne
  rw [← Fate.displaced_keyless, ← Fate.displaced_keyless x.2,
    hs.awaited (hf.indexed hi) htags x hx, Merging.awaits]
  cases hmeet : m₁.meet? v₁ x.1 with
  | none => rfl
  | some key =>
    have hcandidate := (Merging.meet_mem hmeet).1
    rw [hcandidates] at hcandidate
    exact congrArg Option.toList (hspared key hcandidate).1

/-- **The records and what has made way for entities are the records before and the entities.** -/
theorem balance (h : Fates m v fs v' m') (hi : Indexed m v)
    (htags : ((fs.map (·.1)).map (·.specifics.tag)).Nodup) :
    (v'.records.values ++ fs.flatMap (·.2.displaced v)).Perm
      (v.records.values ++ fs.map (·.1.record)) := by
  induction h with
  | nil => exact List.Perm.refl _
  | @cons m m₁ _ v v₁ v' e f fs hf hs ih =>
    obtain ⟨hfirst, hrest⟩ := List.nodup_cons.1 htags
    have hall := ih (hf.indexed hi) hrest
    rw [displaced_before hf hs hi hrest hfirst] at hall
    have hone := hf.balance hi
    rw [List.flatMap_cons, List.map_cons]
    calc v'.records.values ++ (f.displaced v ++ fs.flatMap (·.2.displaced v))
      _ ~ v'.records.values ++ fs.flatMap (·.2.displaced v) ++ f.displaced v := by
          rw [← List.append_assoc]
          exact SortedMap.perm_append_right_comm _ _ _
      _ ~ v₁.records.values ++ fs.map (·.1.record) ++ f.displaced v := hall.append_right _
      _ ~ v₁.records.values ++ f.displaced v ++ fs.map (·.1.record) :=
          SortedMap.perm_append_right_comm _ _ _
      _ ~ v.records.values ++ [e.record] ++ fs.map (·.1.record) := hone.append_right _
      _ = v.records.values ++ e.record :: fs.map (·.1.record) := List.append_assoc _ _ _

/-- **There are the same records in the end.** -/
theorem Alike.values_perm (hsame : Alike fs gs) (h : Fates m v fs v' m') (h' : Fates m v gs w' n')
    (hi : Indexed m v) (htags : ((fs.map (·.1)).map (·.specifics.tag)).Nodup)
    (hperm : (fs.map (·.1)).Perm (gs.map (·.1))) : w'.records.values.Perm v'.records.values := by
  have hentities := hperm.map Entity.record
  rw [List.map_map, List.map_map] at hentities
  have hdisplaced : (fs.flatMap (·.2.displaced v)).Perm (gs.flatMap (·.2.displaced v)) :=
    hsame.flatMap fun _ f => f.displaced_keyless v
  have htags' : ((gs.map (·.1)).map (·.specifics.tag)).Nodup := (hperm.map _).nodup_iff.1 htags
  refine (List.perm_append_right_iff (gs.flatMap (·.2.displaced v))).1 ?_
  calc w'.records.values ++ gs.flatMap (·.2.displaced v)
    _ ~ v.records.values ++ gs.map (·.1.record) := h'.balance hi htags'
    _ ~ v.records.values ++ fs.map (·.1.record) := hentities.symm.append_left _
    _ ~ v'.records.values ++ fs.flatMap (·.2.displaced v) := (h.balance hi htags).symm
    _ ~ v'.records.values ++ gs.flatMap (·.2.displaced v) := hdisplaced.append_left _

end Fates

/-! ## 5. Merges of a device -/

/-- Changes with data are those of their entities. -/
theorem RemoteChange.map_data {cs : List RemoteChange} (h : ∀ c ∈ cs, c.data.isSome) :
    cs.map (·.data) = (cs.filterMap (·.data)).map some := by
  induction cs with
  | nil => rfl
  | cons c cs ih =>
    obtain ⟨hc, hcs⟩ := List.forall_mem_cons.1 h
    obtain ⟨e, he⟩ := Option.isSome_iff_exists.1 hc
    rw [List.map_cons, List.filterMap_cons_some he, List.map_cons, ih hcs, he]

/-- Announcements tell no keys. -/
theorem Merge.filterMap_keyed (fs : List (Entity × Fate)) (rs : List (PrimaryKey × Record)) :
    (callsOf fs ++ rs.map putOf).filterMap (·.keyed?) = (callsOf fs).filterMap (·.keyed?) := by
  have hnone : (rs.map putOf).filterMap (·.keyed?) = [] := by
    refine List.filterMap_eq_nil_iff.2 fun c hc => ?_
    obtain ⟨x, -, rfl⟩ := List.mem_map.1 hc
    rfl
  rw [List.filterMap_append, hnone, List.append_nil]

namespace Device

section Order

variable {π : Type} [Processor π] {d d₁ d₂ : Device π} {remote remote' : List RemoteChange}
  {summary summary' : MergeSummary} {fs gs : List (Entity × Fate)} {m m' : Merging}

/-- Entities that come in another order have the same fates. -/
theorem Merged.alike (h : Merged d remote summary fs m d₁) (h' : Merged d remote' summary' gs m' d₂)
    (hsound : d.store.vault.Sound) (hperm : remote.Perm remote')
    (htags : ((remote.filterMap (·.data)).map (·.specifics.tag)).Nodup) :
    (fs.map (·.1)).Perm (gs.map (·.1)) ∧ Fates.Alike fs gs := by
  have hentities : (fs.map (·.1)).Perm (gs.map (·.1)) := by
    rw [h.data, h'.data]
    exact hperm.filterMap _
  exact ⟨hentities, h.fates.alike h'.fates (.ofRecords hsound) (h.data.symm ▸ htags) hentities⟩

/-- Merges with the same fates announce the same records. -/
theorem unmet_alike (h : Merged d remote summary fs m d₁)
    (h' : Merged d remote' summary' gs m' d₂) (hsame : Fates.Alike fs gs) :
    Merge.unmet m' d.store.vault.records.toList = Merge.unmet m d.store.vault.records.toList := by
  refine List.filter_congr fun x _ => ?_
  have hsettled : m'.isSettled x.1 = true ↔ m.isSettled x.1 = true := by
    rw [h.isSettled, h'.isSettled, hsame.removed.mem_iff]
    exact or_congr_left (not_congr ⟨fun hnil => (hnil ▸ hsame.applied x.1).eq_nil,
      fun hnil => (hnil ▸ hsame.applied x.1).symm.eq_nil⟩)
  rw [Bool.eq_iff_iff.2 hsettled]

/-- If a merge succeeds, so does a merge of the same entities in another order. -/
theorem merge_succeeds_of_perm (hquiet : d.store.Quiet) (hsound : d.store.content.Sound)
    (hperm : remote.Perm remote')
    (htags : ((remote.filterMap (·.data)).map (·.specifics.tag)).Nodup)
    (h : (merge remote).Succeeds d) : (merge remote').Succeeds d := by
  obtain ⟨summary, d₁, h⟩ := h
  have hable := able_of_merge hquiet hsound h
  obtain ⟨fs, m, hmerged⟩ := merge_ok hquiet hsound.vault h
  have hdata : ∀ c ∈ remote, c.data.isSome := by
    intro c hc
    have hmem : c.data ∈ fs.map (some ·.1) := hmerged.entities ▸ List.mem_map_of_mem hc
    obtain ⟨x, -, hx⟩ := List.mem_map.1 hmem
    rw [← hx]
    rfl
  have hdata' : ∀ c ∈ remote', c.data.isSome := fun c hc => hdata c (hperm.mem_iff.2 hc)
  have hentities := hperm.filterMap (·.data)
  have hkeys := (hable.merge_succeeds_iff (RemoteChange.map_data hdata) htags).1 ⟨summary, d₁, h⟩
  rw [hentities.countP_eq] at hkeys
  exact (hable.merge_succeeds_iff (RemoteChange.map_data hdata')
    ((hentities.map _).nodup_iff.1 htags)).2 hkeys

end Order

/-- **The order of remote entities with different client tags plays no part in a merge.** A merge of
    the same entities in another order succeeds as well, with the same counts. Behind both there are the
    same records, and what was resident before is the same under its key. The processor is told the same
    announcements, and keys for the same entities. -/
theorem merge_order {π : Type} [Processor π] {d : Device (Overheard π)}
    {remote remote' : List RemoteChange} (hquiet : d.store.Quiet) (hsound : d.store.content.Sound)
    (hperm : remote.Perm remote')
    (htags : ((remote.filterMap (·.data)).map (·.specifics.tag)).Nodup) :
    ((merge remote').Succeeds d ↔ (merge remote).Succeeds d) ∧
    ∀ summary summary' d₁ d₂, (merge remote).perform d = (.ok summary, d₁) →
      (merge remote').perform d = (.ok summary', d₂) →
      summary' = summary ∧
      d₂.store.vault.records.values.Perm d₁.store.vault.records.values ∧
      (∀ key r, d.store.vault.records.get? key = some r →
        d₂.store.vault.records.get? key = d₁.store.vault.records.get? key) ∧
      ∃ calls calls',
        d₁.processor.heard = d.processor.heard ++ calls ∧
        d₂.processor.heard = d.processor.heard ++ calls' ∧
        calls'.filter (·.put?.isSome) = calls.filter (·.put?.isSome) ∧
        (calls'.filterMap (·.keyed?)).Perm (calls.filterMap (·.keyed?)) := by
  have htags' := ((hperm.filterMap (·.data)).map (·.specifics.tag)).nodup_iff.1 htags
  refine ⟨⟨merge_succeeds_of_perm hquiet hsound hperm.symm htags',
    merge_succeeds_of_perm hquiet hsound hperm htags⟩, ?_⟩
  intro summary summary' d₁ d₂ h h'
  obtain ⟨fs, m, hfirst⟩ := merge_ok hquiet hsound.vault h
  obtain ⟨gs, m', hsecond⟩ := merge_ok hquiet hsound.vault h'
  obtain ⟨hentities, hsame⟩ := hfirst.alike hsecond hsound.vault hperm htags
  have htagged : ((fs.map (·.1)).map (·.specifics.tag)).Nodup := hfirst.data.symm ▸ htags
  have hunmet := unmet_alike hfirst hsecond hsame
  have hindexed : Indexed (.ofRecords d.store.vault.records) d.store.vault := .ofRecords hsound.vault
  refine ⟨?_, hsame.values_perm hfirst.fates hsecond.fates hindexed htagged hentities,
    fun key r hr => hsame.get?_eq hfirst.fates hsecond.fates hsound.vault htagged hr,
    Merged.calls d fs m, Merged.calls d gs m', ?_, ?_, ?_, ?_⟩
  · rw [hfirst.summary, hsecond.summary, hsame.summary_eq hfirst.fates hsecond.fates, hunmet]
  · rw [hfirst.processor]
    exact Overheard.hearAll_heard _ _
  · rw [hsecond.processor]
    exact Overheard.hearAll_heard _ _
  · rw [Merged.calls, Merged.calls, Merge.filter_puts, Merge.filter_puts, hunmet]
  · rw [Merged.calls, Merged.calls, Merge.filterMap_keyed, Merge.filterMap_keyed]
    exact hsame.keyed.symm

/-- A device with two records in a database, whose processor is overheard. -/
def filed : Device (Overheard Recorder) where
  store := .database
    ((Database.fresh.insertRaw 1 (.sample "a") 0 0).insertRaw 2 (.sample "b") 0 0)
  processor := { processor := {} }
  notifier := .ofCapacity 1

theorem merge_order_filed :
    ([.sample "a", .sample "c", .sample "d"] : List RemoteChange).Perm
        [.sample "d", .sample "a", .sample "c"] ∧
      ∃ d₁ d₂,
        (merge [.sample "a", .sample "c", .sample "d"]).perform filed =
          (.ok { matched := 1, remoteOnly := 2, localOnly := 1 }, d₁) ∧
        (merge [.sample "d", .sample "a", .sample "c"]).perform filed =
          (.ok { matched := 1, remoteOnly := 2, localOnly := 1 }, d₂) ∧
        d₂.store.vault.records.values.Perm d₁.store.vault.records.values ∧
        d₂.store.vault.records.get? 1 = d₁.store.vault.records.get? 1 ∧
        d₂.processor.heard.filter (·.put?.isSome) = d₁.processor.heard.filter (·.put?.isSome) ∧
        (d₂.processor.heard.filterMap (·.keyed?)).Perm
          (d₁.processor.heard.filterMap (·.keyed?)) := by
  have hperm : ([.sample "a", .sample "c", .sample "d"] : List RemoteChange).Perm
      [.sample "d", .sample "a", .sample "c"] :=
    (List.Perm.cons _ (List.Perm.swap _ _ _)).trans (List.Perm.swap _ _ _)
  have htags : ((([.sample "a", .sample "c", .sample "d"] : List RemoteChange).filterMap
      (·.data)).map (·.specifics.tag)).Nodup := by decide +kernel
  have hquiet : filed.store.Quiet := ⟨rfl, rfl⟩
  have hsound : filed.store.content.Sound :=
    (Store.Reached.insertRaw 2 (.sample "b") 0 0
      (.insertRaw 1 (.sample "a") 0 0 .database)).sound.content
  have hmerge : ((merge [.sample "a", .sample "c", .sample "d"]).perform filed).1.toOption =
      some { matched := 1, remoteOnly := 2, localOnly := 1 } := by decide +kernel
  obtain ⟨d₁, h⟩ : ∃ d₁, (merge [.sample "a", .sample "c", .sample "d"]).perform filed =
      (.ok { matched := 1, remoteOnly := 2, localOnly := 1 }, d₁) := ⟨_, ok_of_toOption hmerge⟩
  obtain ⟨hsucceeds, hsame⟩ := merge_order hquiet hsound hperm htags
  obtain ⟨summary', d₂, h'⟩ := hsucceeds.2 ⟨_, d₁, h⟩
  obtain ⟨rfl, hvalues, hget, calls, calls', hcalls, hcalls', hputs, hkeyed⟩ :=
    hsame _ _ d₁ d₂ h h'
  have hcalls : d₁.processor.heard = calls := hcalls
  have hcalls' : d₂.processor.heard = calls' := hcalls'
  have hresident : filed.store.vault.records.get? 1 = some (.sample "a") := by decide +kernel
  subst hcalls hcalls'
  exact ⟨hperm, d₁, d₂, h, h', hvalues, hget 1 _ hresident, hputs, hkeyed⟩

end Device

end CredentialSync
