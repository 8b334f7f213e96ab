import CredentialSync.Proofs.Attempt
import CredentialSync.Store.Schema

/-!
# Migrating twice

A database notes the version of each step of the schema that it has taken, in ascending order and
each once (`Tables.Ordered`), and reads its version from the greatest note. What a sequence of steps
does to the notes is `runMigrations_ok`: it adds the versions of its steps and no others.

Once a database has been migrated, migrating it again changes nothing, whatever notes and tables it
started from. It succeeds exactly if no note is too great for 32 bits (`migrate_again`): such a
note reads as version 0, so that all steps seem to be missing, and the first of them finds its
version taken.
-/

namespace CredentialSync

namespace Tables

open Attempt

variable {t t' : Tables} {vs : List Int64} {v w : Int64}

/-! ## 1. Lists of versions -/

theorem mem_insertVersion : w ∈ insertVersion v vs ↔ w = v ∨ w ∈ vs := by
  induction vs with
  | nil => simp [insertVersion]
  | cons u us ih =>
    unfold insertVersion
    by_cases h : v < u
    · rw [if_pos h, List.mem_cons]
    · rw [if_neg h, List.mem_cons, ih, List.mem_cons]
      exact or_left_comm

/-- A version that is not in an ascending list takes its place in it. -/
theorem pairwise_insertVersion (hvs : vs.Pairwise (· < ·)) (hv : v ∉ vs) :
    (insertVersion v vs).Pairwise (· < ·) := by
  induction vs with
  | nil => exact List.pairwise_singleton _ _
  | cons u us ih =>
    obtain ⟨hu, hus⟩ := List.pairwise_cons.1 hvs
    rw [List.mem_cons, not_or] at hv
    unfold insertVersion
    by_cases h : v < u
    · rw [if_pos h]
      refine List.pairwise_cons.2 ⟨fun w hw => ?_, hvs⟩
      rcases List.mem_cons.1 hw with rfl | hw
      · exact h
      · exact Int64.lt_trans h (hu w hw)
    · rw [if_neg h]
      refine List.pairwise_cons.2 ⟨fun w hw => ?_, ih hus hv.2⟩
      rcases mem_insertVersion.1 hw with rfl | hw
      · exact Int64.lt_of_le_of_ne (Int64.not_lt.1 h) (Ne.symm hv.1)
      · exact hu w hw

/-- The last version of an ascending list is its greatest. -/
theorem le_of_getLast? (hvs : vs.Pairwise (· < ·)) (hlast : vs.getLast? = some w) (hv : v ∈ vs) :
    v ≤ w := by
  obtain ⟨us, rfl⟩ := List.getLast?_eq_some_iff.1 hlast
  rcases List.mem_append.1 hv with hv | hv
  · exact Int64.le_of_lt ((List.pairwise_append.1 hvs).2.2 v hv w List.mem_cons_self)
  · rw [List.mem_singleton.1 hv]
    exact Int64.le_refl w

/-- One version too great for 32 bits, and the list reads as version 0. -/
theorem greatestVersion_eq_zero (hvs : vs.Pairwise (· < ·)) (hv : v ∈ vs)
    (hwide : Int32.maxValue.toInt < v.toInt) : greatestVersion vs = 0 := by
  unfold greatestVersion
  cases hlast : vs.getLast? with
  | none => rfl
  | some w =>
    have hle : v.toInt ≤ w.toInt := Int64.le_iff_toInt_le.1 (le_of_getLast? hvs hlast hv)
    have hnot : ¬ fitsInt32 w = true := by
      simp only [fitsInt32, Bool.and_eq_true, decide_eq_true_eq, not_and, Int.not_le]
      intro _
      omega
    simp only [hnot, if_false, Bool.false_eq_true]

/-- With no version too great for 32 bits, the list reads as at least what it holds. -/
theorem le_greatestVersion (hvs : vs.Pairwise (· < ·))
    (hfit : ∀ v ∈ vs, v.toInt ≤ Int32.maxValue.toInt) (hv : v ∈ vs) (hpos : 0 ≤ v.toInt) :
    v.toInt ≤ greatestVersion vs := by
  unfold greatestVersion
  cases hlast : vs.getLast? with
  | none =>
    rw [List.getLast?_eq_none_iff.1 hlast] at hv
    cases hv
  | some w =>
    have hle : v.toInt ≤ w.toInt := Int64.le_iff_toInt_le.1 (le_of_getLast? hvs hlast hv)
    have hw : w.toInt ≤ Int32.maxValue.toInt := hfit w (List.mem_of_getLast? hlast)
    have hmin : Int32.minValue.toInt ≤ 0 := by decide
    have hfits : fitsInt32 w = true := by
      simp only [fitsInt32, Bool.and_eq_true, decide_eq_true_eq]
      omega
    simp only [hfits, if_true]
    exact hle

/-- A version that is read stands in the list. -/
theorem greatestVersion_mem (h : 0 < greatestVersion vs) :
    ∃ w ∈ vs, w.toInt = greatestVersion vs := by
  unfold greatestVersion at h ⊢
  cases hlast : vs.getLast? with
  | none => simp [hlast] at h
  | some w =>
    rw [hlast] at h
    by_cases hw : fitsInt32 w = true
    · exact ⟨w, List.mem_of_getLast? hlast, by simp [hw]⟩
    · simp [hw] at h

/-! ## 2. Notes -/

/-- The versions noted; none if there is no place for them. -/
def noted (t : Tables) : List Int64 := t.versions.getD []

/-- The notes are in ascending order, each once. -/
def Ordered (t : Tables) : Prop := t.noted.Pairwise (· < ·)

/-- No version is noted that is too great for 32 bits. -/
def Fits (t : Tables) : Prop := ∀ v ∈ t.noted, v.toInt ≤ Int32.maxValue.toInt

/-- What noting a version does. -/
theorem perform_noteVersion (v : Int64) (t : Tables) :
    (noteVersion v).perform t = match t.versions with
      | none => (.error (DatabaseFault.noSuchTable "schema_version").store, t)
      | some vs =>
        if v ∈ vs then (.error DatabaseFault.versionTaken.store, t)
        else (.ok (), { t with versions := some (insertVersion v vs) }) := by
  obtain ⟨versions, records, entityMetadata, modelState⟩ := t
  unfold noteVersion
  rw [perform_bind, perform_get]
  cases versions with
  | none => rfl
  | some vs =>
    by_cases hv : v ∈ vs
    · simp [hv]
    · simp [hv]

/-- A version is noted only if it was not before, and takes its place. -/
theorem noteVersion_ok (h : (noteVersion v).perform t = (.ok (), t')) :
    v ∉ t.noted ∧ t' = { t with versions := some (insertVersion v t.noted) } := by
  rw [perform_noteVersion] at h
  unfold noted
  cases hvs : t.versions with
  | none =>
    rw [hvs] at h
    cases h
  | some vs =>
    rw [hvs] at h
    by_cases hv : v ∈ vs
    · simp [hv] at h
    · simp only [hv, if_false, Prod.mk.injEq, true_and] at h
      exact ⟨hv, h.symm⟩

/-- A version noted already is not noted again. -/
theorem noteVersion_taken (hv : v ∈ t.noted) :
    (noteVersion v).perform t = (.error DatabaseFault.versionTaken.store, t) := by
  rw [perform_noteVersion]
  unfold noted at hv
  cases hvs : t.versions with
  | none =>
    rw [hvs] at hv
    cases hv
  | some vs =>
    rw [hvs] at hv
    exact if_pos hv

/-! ## 3. Steps of the schema -/

/-- No step of the schema touches the notes. -/
theorem versions_up {m : Migration} (hm : m ∈ Migration.all) (t : Tables) :
    (m.up t).versions = t.versions := by
  simp only [Migration.all, List.mem_cons, List.not_mem_nil, or_false] at hm
  rcases hm with rfl | rfl <;> rfl

/-- A step that was taken is noted. -/
theorem runMigration_ok {m : Migration} (hm : m ∈ Migration.all)
    (h : (runMigration m).perform t = (.ok (), t')) :
    Int64.ofNat m.version ∉ t.noted ∧
      t'.versions = some (insertVersion (Int64.ofNat m.version) t.noted) := by
  have hup : (m.up t).noted = t.noted := congrArg (·.getD []) (versions_up hm t)
  unfold runMigration at h
  simp only [perform_bind, perform_get, perform_modify, perform_tryCatch] at h
  rcases hn : (noteVersion (Int64.ofNat m.version)).perform (m.up t) with ⟨_ | _, u⟩ <;> rw [hn] at h
  · cases h
  · obtain rfl : u = t' := (Prod.mk.inj h).2
    obtain ⟨hnew, rfl⟩ := noteVersion_ok hn
    rw [hup] at hnew
    exact ⟨hnew, by rw [hup]⟩

/-- A step noted already fails, and leaves everything as it is. -/
theorem runMigration_taken {m : Migration} (hm : m ∈ Migration.all)
    (h : Int64.ofNat m.version ∈ t.noted) :
    (runMigration m).perform t = (.error DatabaseFault.versionTaken.store, t) := by
  have hup : (m.up t).noted = t.noted := congrArg (·.getD []) (versions_up hm t)
  unfold runMigration
  simp only [perform_bind, perform_get, perform_modify, perform_tryCatch]
  rw [noteVersion_taken (hup ▸ h)]
  rfl

theorem runMigrations_taken {m : Migration} {ms : List Migration} (hm : m ∈ Migration.all)
    (h : Int64.ofNat m.version ∈ t.noted) :
    (runMigrations (m :: ms)).perform t = (.error DatabaseFault.versionTaken.store, t) := by
  unfold runMigrations
  rw [perform_bind, runMigration_taken hm h]

/-- **Steps that were taken add their versions to the notes**, and nothing else does. -/
theorem runMigrations_ok {ms : List Migration} (hms : ∀ m ∈ ms, m ∈ Migration.all)
    (ht : t.versions.isSome) (h : (runMigrations ms).perform t = (.ok (), t')) :
    t'.versions.isSome ∧
      ∀ v, v ∈ t'.noted ↔ v ∈ t.noted ∨ ∃ m ∈ ms, v = Int64.ofNat m.version := by
  induction ms generalizing t with
  | nil =>
    obtain rfl : t = t' := (Prod.mk.inj h).2
    exact ⟨ht, fun v => by simp⟩
  | cons m ms ih =>
    obtain ⟨⟨⟩, u, hm, hrest⟩ := ok_of_bind h
    obtain ⟨-, hu⟩ := runMigration_ok (hms m List.mem_cons_self) hm
    have hnoted : u.noted = insertVersion (Int64.ofNat m.version) t.noted := congrArg (·.getD []) hu
    have hms' : ∀ m' ∈ ms, m' ∈ Migration.all := fun m' hm' => hms m' (List.mem_cons_of_mem _ hm')
    obtain ⟨hsome, hmem⟩ := ih hms' (by rw [hu]; rfl) hrest
    refine ⟨hsome, fun v => ?_⟩
    rw [hmem, hnoted, mem_insertVersion]
    simp only [List.mem_cons, exists_eq_or_imp]
    rw [or_assoc, or_left_comm]

/-! ## 4. What keeps the notes in order -/

theorem Ordered.noteVersion (ht : t.Ordered) (v : Int64) :
    ((noteVersion v).perform t).2.Ordered := by
  rcases h : (Tables.noteVersion v).perform t with ⟨_ | _, t'⟩
  · rw [perform_noteVersion] at h
    split at h
    · exact (Prod.mk.inj h).2 ▸ ht
    · split at h
      · exact (Prod.mk.inj h).2 ▸ ht
      · cases h
  · obtain ⟨hnew, rfl⟩ := noteVersion_ok h
    exact pairwise_insertVersion ht hnew

theorem Ordered.forgetVersion (ht : t.Ordered) (v : Int64) :
    ((forgetVersion v).perform t).2.Ordered := by
  obtain ⟨versions, records, entityMetadata, modelState⟩ := t
  cases versions with
  | none => exact ht
  | some vs => exact List.Pairwise.filter _ ht

theorem Ordered.runMigration {m : Migration} (hm : m ∈ Migration.all) (ht : t.Ordered) :
    ((runMigration m).perform t).2.Ordered := by
  have hup : (m.up t).noted = t.noted := congrArg (·.getD []) (versions_up hm t)
  have hordered : (m.up t).Ordered := by
    unfold Ordered
    rw [hup]
    exact ht
  have hnote := hordered.noteVersion (Int64.ofNat m.version)
  unfold Tables.runMigration
  simp only [perform_bind, perform_get, perform_modify, perform_tryCatch]
  rcases hn : (Tables.noteVersion (Int64.ofNat m.version)).perform (m.up t) with ⟨_ | _, u⟩
  · exact ht
  · rw [hn] at hnote
    exact hnote

theorem Ordered.runMigrations {ms : List Migration} (hms : ∀ m ∈ ms, m ∈ Migration.all)
    (ht : t.Ordered) : ((runMigrations ms).perform t).2.Ordered := by
  induction ms generalizing t with
  | nil => exact ht
  | cons m ms ih =>
    have hm := ht.runMigration (hms m List.mem_cons_self)
    unfold Tables.runMigrations
    rw [perform_bind]
    rcases h : (Tables.runMigration m).perform t with ⟨_ | _, u⟩ <;> rw [h] at hm
    · exact hm
    · exact ih (fun m' hm' => hms m' (List.mem_cons_of_mem _ hm')) hm

/-! ## 5. Migrating -/

/-- The steps that seem to be missing. -/
def pending (t : Tables) : List Migration :=
  Migration.all.filter fun m => greatestVersion t.noted < m.version

theorem pending_mem_all : ∀ m ∈ t.pending, m ∈ Migration.all :=
  fun _ hm => (List.mem_filter.1 hm).1

/-- Migrating: a place for notes, and then the steps that seem to be missing. -/
theorem perform_migrate (t : Tables) :
    migrate.perform t = (runMigrations t.pending).perform { t with versions := some t.noted } := by
  unfold migrate version
  simp only [perform_bind, perform_modify, perform_get]
  rfl

/-- **Migrating keeps the notes in order**, whether it succeeds or fails. -/
theorem Ordered.migrate (ht : t.Ordered) : (migrate.perform t).2.Ordered := by
  rw [perform_migrate]
  exact Ordered.runMigrations (t := { t with versions := some t.noted }) pending_mem_all ht

/-- A migrated database notes what it noted before, and the steps that seemed to be missing. -/
theorem migrate_ok (h : migrate.perform t = (.ok (), t')) :
    t'.versions = some t'.noted ∧
      ∀ v, v ∈ t'.noted ↔ v ∈ t.noted ∨ ∃ m ∈ t.pending, v = Int64.ofNat m.version := by
  rw [perform_migrate] at h
  obtain ⟨hsome, hmem⟩ := runMigrations_ok pending_mem_all rfl h
  refine ⟨?_, hmem⟩
  obtain ⟨vs, hvs⟩ := Option.isSome_iff_exists.1 hsome
  unfold noted
  rw [hvs]
  rfl

/-- No note is too great: the database reads as current, so no step seems to be missing. -/
theorem pending_of_fits (ht : t.Ordered) (h : migrate.perform t = (.ok (), t')) (hfits : t.Fits) :
    t'.pending = [] := by
  obtain ⟨-, hmem⟩ := migrate_ok h
  have ht' : t'.Ordered := by
    have := ht.migrate
    rwa [h] at this
  have hfits' : t'.Fits := by
    intro v hv
    rcases (hmem v).1 hv with hv | ⟨m, hm, rfl⟩
    · exact hfits v hv
    · have hall : ∀ m ∈ Migration.all, (Int64.ofNat m.version).toInt ≤ Int32.maxValue.toInt := by
        decide
      exact hall m (pending_mem_all m hm)
  -- the greatest note is either the one that was read, or at least that of the last step
  have hcurrent : (Migration.current : Int) ≤ greatestVersion t'.noted := by
    by_cases hlt : greatestVersion t.noted < Migration.current
    · obtain ⟨m, hm, hlast⟩ : ∃ m ∈ Migration.all, m.version = Migration.current :=
        ⟨_, List.mem_cons_of_mem _ List.mem_cons_self, rfl⟩
      have hpending : m ∈ t.pending :=
        List.mem_filter.2 ⟨hm, by rw [hlast]; exact decide_eq_true hlt⟩
      have hnoted : Int64.ofNat Migration.current ∈ t'.noted :=
        (hmem _).2 (.inr ⟨m, hpending, by rw [hlast]⟩)
      exact le_greatestVersion ht' hfits' hnoted (by decide)
    · have hle : (Migration.current : Int) ≤ greatestVersion t.noted := Int.not_lt.1 hlt
      have hsteps : (0 : Int) < Migration.current := by decide
      have hpos : 0 < greatestVersion t.noted := by omega
      obtain ⟨w, hw, heq⟩ := greatestVersion_mem hpos
      have hkept := le_greatestVersion ht' hfits' ((hmem w).2 (.inl hw)) (by omega)
      omega
  refine List.filter_eq_nil_iff.2 fun m hm => ?_
  have hle : ∀ m ∈ Migration.all, m.version ≤ Migration.current := by decide
  have hstep := hle m hm
  simp only [decide_eq_true_eq, Int.not_lt]
  omega

/-- A note is too great: the database reads as empty before and after, so all steps seem to be
missing, and the first of them is noted already. -/
theorem taken_of_wide (ht : t.Ordered) (h : migrate.perform t = (.ok (), t')) (hv : v ∈ t.noted)
    (hwide : Int32.maxValue.toInt < v.toInt) :
    migrate.perform t' = (.error DatabaseFault.versionTaken.store, t') := by
  obtain ⟨hsome, hmem⟩ := migrate_ok h
  have ht' : t'.Ordered := by
    have := ht.migrate
    rwa [h] at this
  have hall : ∀ u : Tables, greatestVersion u.noted = 0 → u.pending = Migration.all := by
    intro u hu
    unfold pending
    rw [hu]
    rfl
  have hpending : t.pending = Migration.all := hall t (greatestVersion_eq_zero ht hv hwide)
  have hpending' : t'.pending = Migration.all :=
    hall t' (greatestVersion_eq_zero ht' ((hmem v).2 (.inl hv)) hwide)
  obtain ⟨m, ms, hfirst⟩ : ∃ m ms, Migration.all = m :: ms := ⟨_, _, rfl⟩
  have hm : m ∈ Migration.all := hfirst ▸ List.mem_cons_self
  have htaken : Int64.ofNat m.version ∈ t'.noted := (hmem _).2 (.inr ⟨m, hpending ▸ hm, rfl⟩)
  rw [perform_migrate, hpending', ← hsome, hfirst]
  exact runMigrations_taken hm htaken

instance (t : Tables) : Decidable t.Fits :=
  inferInstanceAs (Decidable (∀ v ∈ t.noted, v.toInt ≤ Int32.maxValue.toInt))

/-- **Migrating a migrated database changes nothing, and succeeds exactly if no version had been
noted that is too great for 32 bits.** -/
theorem migrate_again (ht : t.Ordered) (h : migrate.perform t = (.ok (), t')) :
    migrate.perform t' =
      (if t.Fits then .ok () else .error DatabaseFault.versionTaken.store, t') := by
  by_cases hfits : t.Fits
  · rw [if_pos hfits, perform_migrate, pending_of_fits ht h hfits, ← (migrate_ok h).1]
    rfl
  · rw [if_neg hfits]
    obtain ⟨v, hv⟩ := Classical.not_forall.1 hfits
    obtain ⟨hv, hwide⟩ := Classical.not_imp.1 hv
    exact taken_of_wide ht h hv (Int.not_le.1 hwide)

/-- Another build has noted a version below all steps, and keeps a model state. -/
def early : Tables := { versions := some [-5], modelState := some (some [0x2a]) }

theorem migrate_again_early :
    ∃ t', early.Ordered ∧ migrate.perform early = (.ok (), t') ∧ t'.versions = some [-5, 1, 2] ∧
      migrate.perform t' =
        (if early.Fits then .ok () else .error DatabaseFault.versionTaken.store, t') :=
  have hordered : early.Ordered := List.pairwise_singleton _ _
  ⟨_, hordered, rfl, rfl, migrate_again hordered rfl⟩

/-- Another build has noted a version that takes more than 32 bits. -/
def beyond : Tables := { versions := some [2147483648] }

theorem beyond_fails_again :
    ∃ t', migrate.perform beyond = (.ok (), t') ∧
      (migrate.perform t').1 = .error DatabaseFault.versionTaken.store :=
  ⟨_, rfl, rfl⟩

end Tables

end CredentialSync
