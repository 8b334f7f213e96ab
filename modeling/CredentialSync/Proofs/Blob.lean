import CredentialSync.Blob
import CredentialSync.Proofs.Text.Utf8
import Mathlib.Algebra.Ring.Nat

/-!
# Reading binary records back

A reader `Reader.Accepts` bytes as a value if it takes just these bytes from the front of any input that
begins with them, and gives the value. Sequences of readers accept what their parts accept, one after
the other (`Accepts.bind`), and every writer of `Blob` writes what its reader accepts as the same value.
A list of bytes and a text have to be shorter than `lengthLimit`, since no greater length can be written.
-/

namespace CredentialSync.Blob

/-- The lengths that can be written lie below this number. -/
def lengthLimit : Nat := 256 ^ 8

/-! ## 1. Numbers -/

theorem number_littleEndian (n v : Nat) : Reader.number (littleEndian n v) = v % 256 ^ n := by
  induction n generalizing v with
  | zero => simp [littleEndian, Reader.number, Nat.mod_one]
  | succ n ih =>
    have hlow : (UInt8.ofNat v).toNat = v % 256 := by simp
    rw [littleEndian, Reader.number, ih, hlow, Nat.pow_succ', Nat.mod_mul]

theorem length_littleEndian (n v : Nat) : (littleEndian n v).length = n := by
  induction n generalizing v with
  | zero => rfl
  | succ n ih => simp [littleEndian, ih]

/-! ## 2. Sequences of readers -/

namespace Reader

variable {α β : Type}

/-- What comes behind a part that is read. -/
theorem run_bind_of_ok {r : Reader α} {f : α → Reader β} {bytes rest : List UInt8} {a : α}
    (h : r.run bytes = .ok (a, rest)) : (r >>= f).run bytes = (f a).run rest := by
  rw [StateT.run_bind, h]
  rfl

/-- Reading one part after another succeeds only if both parts do. -/
theorem ok_of_bind {r : Reader α} {f : α → Reader β} {bytes : List UInt8} {x : β × List UInt8}
    (h : (r >>= f).run bytes = .ok x) : ∃ y, r.run bytes = .ok y ∧ (f y.1).run y.2 = .ok x := by
  rw [StateT.run_bind] at h
  cases hr : r.run bytes with
  | error fault =>
    rw [hr] at h
    cases h
  | ok y =>
    rw [hr] at h
    exact ⟨y, rfl, h⟩

/-- The reader takes the bytes from the front, whatever follows them, and gives the value. -/
def Accepts (r : Reader α) (bytes : List UInt8) (a : α) : Prop :=
  ∀ rest, r.run (bytes ++ rest) = .ok (a, rest)

theorem accepts_pure (a : α) : (pure a : Reader α).Accepts [] a := fun _ => rfl

theorem Accepts.bind {r : Reader α} {f : α → Reader β} {bs cs : List UInt8} {a : α} {b : β}
    (h : r.Accepts bs a) (hf : (f a).Accepts cs b) : (r >>= f).Accepts (bs ++ cs) b := by
  intro rest
  rw [List.append_assoc, run_bind_of_ok (h (cs ++ rest))]
  exact hf rest

/-- What follows the last part gives the value only. -/
theorem Accepts.map {r : Reader α} {bs : List UInt8} {a : α} (h : r.Accepts bs a) (f : α → β) :
    (r >>= fun x => pure (f x)).Accepts bs (f a) := by
  have hbind := h.bind (f := fun x => pure (f x)) (accepts_pure (f a))
  rwa [List.append_nil] at hbind

/-- Accepted bytes are read as the value, whatever follows them. -/
theorem Accepts.read {r : Reader α} {bs : List UInt8} {a : α} (h : r.Accepts bs a)
    (rest : List UInt8) : Blob.read r (bs ++ rest) = .ok a := by
  rw [Blob.read, h rest]
  rfl

/-! ## 3. One reader for each writer -/

theorem accepts_take {n : Nat} {bs : List UInt8} (h : bs.length = n) (fault : Fault) :
    (take n fault).Accepts bs bs := by
  intro rest
  subst h
  show take bs.length fault (bs ++ rest) = _
  simp [take]

theorem accepts_length {n : Nat} (h : n < lengthLimit) : length.Accepts (ofLength n) n := by
  have hnumber : number (littleEndian 8 n) = n := by
    rw [number_littleEndian]
    exact Nat.mod_eq_of_lt h
  have hread := (accepts_take (length_littleEndian 8 n) .cutOff).map number
  rwa [hnumber] at hread

theorem accepts_int64 (v : Int64) : int64.Accepts (ofInt64 v) v := by
  have hnumber : number (littleEndian 8 v.toUInt64.toNat) = v.toUInt64.toNat := by
    rw [number_littleEndian]
    exact Nat.mod_eq_of_lt v.toUInt64.toNat_lt
  have hread := (accepts_take (length_littleEndian 8 v.toUInt64.toNat) .cutOff).map
    fun bs => (UInt64.ofNat (number bs)).toInt64
  rw [hnumber, UInt64.ofNat_toNat] at hread
  exact hread

theorem accepts_bool (b : Bool) : bool.Accepts (ofBool b) b := by
  have hlength : (ofBool b).length = 1 := rfl
  have htake := accepts_take hlength .cutOff
  intro rest
  rw [bool, run_bind_of_ok (htake rest)]
  cases b <;> rfl

theorem accepts_bytes {bs : List UInt8} (h : bs.length < lengthLimit) :
    bytes.Accepts (ofBytes bs) bs :=
  (accepts_length h).bind (accepts_take rfl .cutOff)

theorem accepts_text {s : String} (h : (Text.Utf8.encode s).length < lengthLimit) :
    text.Accepts (ofText s) s := by
  refine (accepts_length h).bind (f := fun n => take n .textCutOff >>= _) fun rest => ?_
  rw [run_bind_of_ok (accepts_take rfl .textCutOff rest), Text.Utf8.decode_encode]
  rfl

end Reader

theorem ok_of_map {α β : Type} {r : Except Fault α} {f : α → β} {b : β} (h : r.map f = .ok b) :
    ∃ a, r = .ok a ∧ f a = b := by
  cases r with
  | error fault => cases h
  | ok a => exact ⟨a, rfl, Except.ok.inj h⟩

end CredentialSync.Blob
