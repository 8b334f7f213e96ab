import CredentialSync.Proofs.Apply.Applied
import CredentialSync.Proofs.Tracking.Merge

/-!
# Applications keep tracking the records

What an application of honest remote changes asks for mirrors the changes that it makes to the
records, but for records that it overwrites in place: these keep their client tags, and it asks for
nothing. So metadata that tracks the records goes on tracking them (`AppliedAll.follows`).
-/

namespace CredentialSync

variable {replacing : Bool} {v v' : Vault} {cs : List LocalChange} {es : List Work.Event}

/-- What is cleared mirrors removals. -/
theorem mirrors_clearings (hcs : ∀ c ∈ cs, c.kind = .remove) :
    List.Forall₂ Mirrors cs ((clearings cs).flatMap Work.Event.asks) := by
  have hasks : (clearings cs).flatMap Work.Event.asks = cs.map fun c => .clear c.storageKey := by
    rw [clearings, List.flatMap_map, List.map_eq_flatMap]
    rfl
  rw [hasks, List.forall₂_map_right_iff, List.forall₂_same]
  exact fun c hc => .clear (hcs c hc)

/-- An honest entity that becomes a record. -/
theorem Placed.follows {e : Entity} {key : PrimaryKey} (h : Placed replacing v e key cs es v')
    (he : e.Honest) : Follows v es v' := by
  refine .of_steps h.steps ?_
  cases h with
  | mk hkey =>
    rw [List.flatMap_append]
    refine List.rel_append (mirrors_clearings Vault.kind_of_makeRoom) ?_
    exact .cons (.set nofun he.ofRemote) .nil

/-- **One change.** -/
theorem Applied.follows {c : RemoteChange} (h : Applied replacing v c cs es v')
    (hhonest : ∀ e, c.data = some e → e.Honest) : Follows v es v' := by
  cases h with
  | added _ hdata hplaced => exact hplaced.follows (hhonest _ hdata)
  | overwrote _ _ _ hold hsame => exact .put hold hsame
  | @moved _ key _ old _ _ _ _ _ hdata hold _ hplaced =>
    have hmirrors : Mirrors ⟨.remove, key, old⟩ (.clear key.storageKey) :=
      .clear (c := ⟨.remove, key, old⟩) rfl
    have hremoved : Follows v [.write [.clear key.storageKey]] (v.drop key) :=
      .of_steps (.single (.remove _ _ _ hold)) (.cons hmirrors .nil)
    exact hremoved.trans (hplaced.follows (hhonest _ hdata))
  | @deleted key old _ hkey hold =>
    have hmirrors : Mirrors ⟨.remove, key, old⟩ (.clear c.storageKey) := by
      rw [← StorageKey.storageKey_of_primaryKey? hkey]
      exact .clear (c := ⟨.remove, key, old⟩) rfl
    exact .of_steps (.single (.remove _ _ _ hold)) (.cons hmirrors .nil)

/-- **All changes.** -/
theorem AppliedAll.follows {remote : List RemoteChange} (h : AppliedAll replacing v remote cs es v')
    (hhonest : RemoteChange.AllHonest remote) : Follows v es v' := by
  induction h with
  | nil v => exact .refl v
  | cons hc _ ih =>
    exact (hc.follows (hhonest _ List.mem_cons_self)).trans
      (ih fun c hc => hhonest c (List.mem_cons_of_mem _ hc))

end CredentialSync
