import CredentialSync.Attempt

/-!
# Performing attempts

How `Attempt.perform` goes through the parts of an attempt. A sequence has a result only if both
of its parts have one (`ok_of_bind`).

An attempt that `Reads` leaves the state alone, whether it succeeds or fails. An attempt `Succeeds` at a
state if it has a result there; a sequence does exactly if its parts do (`succeeds_bind`). An attempt
`Keeps` a property of the state if the property survives it, whether it succeeds or fails. It `FailsWith`
errors of a kind if all its errors are of this kind.
-/

namespace CredentialSync.Attempt

variable {σ τ α β : Type}

/-! ## 1. Single steps -/

@[simp] theorem perform_pure (a : α) (s : σ) : (pure a : Attempt σ α).perform s = (.ok a, s) := rfl

@[simp] theorem perform_throw (e : SyncError) (s : σ) :
    (throw e : Attempt σ α).perform s = (.error e, s) := rfl

@[simp] theorem perform_get (s : σ) : (get : Attempt σ σ).perform s = (.ok s, s) := rfl

@[simp] theorem perform_set (s t : σ) : (set t : Attempt σ PUnit).perform s = (.ok ⟨⟩, t) := rfl

@[simp] theorem perform_modify (f : σ → σ) (s : σ) :
    (modify f : Attempt σ PUnit).perform s = (.ok ⟨⟩, f s) := rfl

@[simp] theorem perform_ofExcept (r : Except SyncError α) (s : σ) :
    (ofExcept r : Attempt σ α).perform s = (r, s) := by
  cases r <;> rfl

@[simp] theorem perform_ofFunction (f : σ → Except SyncError α × σ) (s : σ) :
    (ofFunction f).perform s = f s := rfl

@[simp] theorem perform_within (part : σ → τ) (put : τ → σ → σ) (a : Attempt τ α) (s : σ) :
    (within part put a).perform s = ((a.perform (part s)).1, put (a.perform (part s)).2 s) := rfl

/-! ## 2. Sequences -/

theorem perform_bind (a : Attempt σ α) (f : α → Attempt σ β) (s : σ) :
    (a >>= f).perform s = match a.perform s with
      | (.ok x, t) => (f x).perform t
      | (.error e, t) => (.error e, t) := by
  unfold perform
  show (ExceptT.bind a f : StateM σ _) s = _
  unfold ExceptT.bind ExceptT.mk
  show (match a s with | (r, t) => (ExceptT.bindCont f r : StateM σ _) t) = _
  rcases a s with ⟨_ | _, _⟩ <;> rfl

@[simp] theorem perform_map (g : α → β) (a : Attempt σ α) (s : σ) :
    (g <$> a).perform s = ((a.perform s).1.map g, (a.perform s).2) := by
  rw [map_eq_pure_bind, perform_bind]
  rcases a.perform s with ⟨_ | _, _⟩ <;> rfl

theorem perform_tryCatch (a : Attempt σ α) (f : SyncError → Attempt σ α) (s : σ) :
    (tryCatch a f).perform s = match a.perform s with
      | (.ok x, t) => (.ok x, t)
      | (.error e, t) => (f e).perform t := by
  show (ExceptT.tryCatch a f : StateM σ _) s = _
  unfold perform ExceptT.tryCatch ExceptT.mk
  rcases h : a s with ⟨_ | _, _⟩
  · simp only [bind, StateT.bind, h]
  · simp only [bind, StateT.bind, h]
    rfl

/-- A sequence succeeds only if its first part and the rest do. -/
theorem ok_of_bind {a : Attempt σ α} {f : α → Attempt σ β} {s u : σ} {b : β}
    (h : (a >>= f).perform s = (.ok b, u)) :
    ∃ x t, a.perform s = (.ok x, t) ∧ (f x).perform t = (.ok b, u) := by
  rw [perform_bind] at h
  rcases ha : a.perform s with ⟨_ | x, t⟩ <;> rw [ha] at h
  · cases h
  · exact ⟨x, t, rfl, h⟩

theorem bind_of_ok {a : Attempt σ α} {f : α → Attempt σ β} {s t : σ} {x : α}
    (h : a.perform s = (.ok x, t)) : (a >>= f).perform s = (f x).perform t := by
  rw [perform_bind, h]

/-- A sequence that only returns something behind its first part leaves what that leaves. -/
theorem first_of_bind_pure {a : Attempt σ α} {f : α → β} {s t : σ} {res : Except SyncError β}
    (h : (a >>= fun x => pure (f x)).perform s = (res, t)) : ∃ r, a.perform s = (r, t) := by
  rw [perform_bind] at h
  rcases ha : a.perform s with ⟨_ | x, u⟩ <;> rw [ha] at h <;> cases h <;> exact ⟨_, rfl⟩

/-- An attempt whose result is known succeeds with some state. -/
theorem ok_of_toOption {a : Attempt σ α} {s : σ} {x : α}
    (h : (a.perform s).1.toOption = some x) : a.perform s = (.ok x, (a.perform s).2) := by
  rcases hr : a.perform s with ⟨_ | y, t⟩ <;> rw [hr] at h <;> cases h
  rfl

/-! ## 3. Attempts that only look -/

/-- The attempt leaves the state alone. -/
def Reads (a : Attempt σ α) : Prop := ∀ s, (a.perform s).2 = s

theorem Reads.state {a : Attempt σ α} (ha : a.Reads) {s t : σ} {r : Except SyncError α}
    (h : a.perform s = (r, t)) : t = s := by
  rw [← ha s, h]

theorem Reads.pure (a : α) : (pure a : Attempt σ α).Reads := fun _ => rfl

theorem Reads.throw (e : SyncError) : (throw e : Attempt σ α).Reads := fun _ => rfl

theorem Reads.get : (get : Attempt σ σ).Reads := fun _ => rfl

theorem Reads.ofExcept (r : Except SyncError α) : (ofExcept r : Attempt σ α).Reads := fun s => by
  rw [perform_ofExcept]

theorem Reads.bind {a : Attempt σ α} {f : α → Attempt σ β} (ha : a.Reads) (hf : ∀ x, (f x).Reads) :
    (a >>= f).Reads := fun s => by
  rw [perform_bind]
  split
  · next x t h => rw [hf x t, ha.state h]
  · next e t h => rw [ha.state h]

/-! ## 4. Success -/

/-- The attempt has a result. -/
def Succeeds (a : Attempt σ α) (s : σ) : Prop := ∃ x t, a.perform s = (.ok x, t)

theorem succeeds_pure (a : α) (s : σ) : (pure a : Attempt σ α).Succeeds s := ⟨a, s, rfl⟩

/-- **A sequence succeeds exactly if its first part does, and the rest does behind it.** -/
theorem succeeds_bind {a : Attempt σ α} {f : α → Attempt σ β} {s : σ} :
    (a >>= f).Succeeds s ↔ ∃ x t, a.perform s = (.ok x, t) ∧ (f x).Succeeds t := by
  constructor
  · rintro ⟨b, u, h⟩
    obtain ⟨x, t, ha, hf⟩ := ok_of_bind h
    exact ⟨x, t, ha, b, u, hf⟩
  · rintro ⟨x, t, ha, b, u, hf⟩
    exact ⟨b, u, (bind_of_ok ha).trans hf⟩

/-- What always succeeds plays no part behind an attempt. -/
theorem succeeds_bind_of_forall {a : Attempt σ α} {f : α → Attempt σ β} {s : σ}
    (hf : ∀ x t, (f x).Succeeds t) : (a >>= f).Succeeds s ↔ a.Succeeds s := by
  rw [succeeds_bind]
  constructor
  · rintro ⟨x, t, ha, -⟩
    exact ⟨x, t, ha⟩
  · rintro ⟨x, t, ha⟩
    exact ⟨x, t, ha, hf x t⟩

theorem succeeds_bind_of_ok {a : Attempt σ α} {f : α → Attempt σ β} {s t : σ} {x : α}
    (h : a.perform s = (.ok x, t)) : (a >>= f).Succeeds s ↔ (f x).Succeeds t := by
  unfold Succeeds
  rw [bind_of_ok h]

/-! ## 5. What an attempt keeps -/

variable {P : σ → Prop}

/-- The property holds behind the attempt if it held before. -/
def Keeps (P : σ → Prop) (a : Attempt σ α) : Prop := ∀ s, P s → P (a.perform s).2

theorem Keeps.state {a : Attempt σ α} (ha : a.Keeps P) {s t : σ} {r : Except SyncError α} (hs : P s)
    (h : a.perform s = (r, t)) : P t := by
  have ht := ha s hs
  rwa [h] at ht

theorem Reads.keeps {a : Attempt σ α} (ha : a.Reads) : a.Keeps P := fun s h => (ha s).symm ▸ h

theorem Keeps.modify {f : σ → σ} (hf : ∀ s, P s → P (f s)) : (modify f : Attempt σ PUnit).Keeps P := hf

theorem Keeps.map {a : Attempt σ α} (ha : a.Keeps P) (f : α → β) : (f <$> a).Keeps P := fun s h => by
  rw [perform_map]
  exact ha s h

theorem Keeps.bind {a : Attempt σ α} {f : α → Attempt σ β} (ha : a.Keeps P) (hf : ∀ x, (f x).Keeps P) :
    (a >>= f).Keeps P := fun s h => by
  have hfirst := ha s h
  rw [perform_bind]
  rcases hres : a.perform s with ⟨_ | x, t⟩ <;> rw [hres] at hfirst
  · exact hfirst
  · exact hf x t hfirst

/-! ## 6. Failures -/

variable {Q : SyncError → Prop}

/-- Whatever the attempt fails with has a property. -/
def FailsWith (Q : SyncError → Prop) (a : Attempt σ α) (s : σ) : Prop :=
  ∀ e t, a.perform s = (.error e, t) → Q e

theorem Succeeds.failsWith {a : Attempt σ α} {s : σ} (h : a.Succeeds s) : a.FailsWith Q s :=
  fun e t he => by
    obtain ⟨x, u, hx⟩ := h
    rw [hx] at he
    cases he

theorem FailsWith.mono {R : SyncError → Prop} {a : Attempt σ α} {s : σ} (h : a.FailsWith Q s)
    (hR : ∀ e, Q e → R e) : a.FailsWith R s := fun e t he => hR e (h e t he)

theorem failsWith_pure (a : α) (s : σ) : (pure a : Attempt σ α).FailsWith Q s :=
  (succeeds_pure a s).failsWith

theorem failsWith_throw {e : SyncError} (h : Q e) (s : σ) :
    (throw e : Attempt σ α).FailsWith Q s := fun e' t he => by
  cases he
  exact h

theorem failsWith_ofExcept {r : Except SyncError α} (h : ∀ e, r = .error e → Q e) (s : σ) :
    (ofExcept r : Attempt σ α).FailsWith Q s := fun e t he => by
  rw [perform_ofExcept] at he
  exact h e (Prod.mk.inj he).1

/-- A sequence fails as its first part does, or as the rest does behind it. -/
theorem FailsWith.bind {a : Attempt σ α} {f : α → Attempt σ β} {s : σ} (ha : a.FailsWith Q s)
    (hf : ∀ x t, a.perform s = (.ok x, t) → (f x).FailsWith Q t) : (a >>= f).FailsWith Q s :=
  fun e u he => by
    rw [perform_bind] at he
    rcases hres : a.perform s with ⟨e' | x, t⟩ <;> rw [hres] at he
    · cases he
      exact ha _ _ hres
    · exact hf x t hres e u he

theorem failsWith_bind_of_ok {a : Attempt σ α} {f : α → Attempt σ β} {s t : σ} {x : α}
    (h : a.perform s = (.ok x, t)) : (a >>= f).FailsWith Q s ↔ (f x).FailsWith Q t := by
  unfold FailsWith
  rw [bind_of_ok h]

end CredentialSync.Attempt
