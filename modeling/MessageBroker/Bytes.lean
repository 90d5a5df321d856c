/-!
# Byte strings

Everything that crosses a connection is a finite list of bytes. This module fixes the two readings
of such a list that the wire format needs: a number written with its most significant byte first,
and a text in UTF-8. Both come as a pair of inverse functions.
-/

namespace MessageBroker

/-- A finite string of bytes. -/
abbrev Bytes := List UInt8

namespace Bytes

/-- How many numbers can be written with `width` bytes; the first number that needs more. -/
def bound : Nat → Nat
  | 0 => 1
  | width + 1 => 256 * bound width

/-- The `width` lowest base-256 digits of `n`, most significant first. -/
def bigEndian : Nat → Nat → Bytes
  | 0, _ => []
  | width + 1, n => UInt8.ofNat (n / bound width) :: bigEndian width n

/-- The number whose base-256 digits are `bs`, most significant first. -/
def toNat (bs : Bytes) : Nat :=
  bs.foldl (fun n b => n * 256 + b.toNat) 0

/-- The UTF-8 form of a text. -/
def ofText (s : String) : Bytes :=
  s.toUTF8.data.toList

/-- The text whose UTF-8 form is `bs`; there is none if `bs` is not valid UTF-8. -/
def text? (bs : Bytes) : Option String :=
  String.fromUTF8? ⟨bs.toArray⟩

/-- The first `n` bytes and the rest, if there are that many. -/
def take? (n : Nat) (bs : Bytes) : Option (Bytes × Bytes) :=
  if (bs.take n).length = n then some (bs.take n, bs.drop n) else none

@[simp] theorem bound_zero : bound 0 = 1 := rfl

theorem bound_succ (width : Nat) : bound (width + 1) = 256 * bound width := rfl

theorem bound_pos (width : Nat) : 0 < bound width := by
  induction width with
  | zero => decide
  | succ width ih => exact Nat.mul_pos (by decide) ih

@[simp] theorem length_bigEndian (width n : Nat) : (bigEndian width n).length = width := by
  induction width with
  | zero => rfl
  | succ width ih => simp [bigEndian, ih]

theorem foldl_digits (bs : Bytes) (n : Nat) :
    bs.foldl (fun n b => n * 256 + b.toNat) n = n * bound bs.length + toNat bs := by
  induction bs generalizing n with
  | nil => simp [toNat]
  | cons b bs ih =>
    rw [toNat, List.foldl_cons, List.foldl_cons, ih, ih, List.length_cons, bound_succ]
    rw [Nat.zero_mul, Nat.zero_add, Nat.add_mul, Nat.mul_assoc, Nat.add_assoc]

theorem toNat_cons (b : UInt8) (bs : Bytes) :
    toNat (b :: bs) = b.toNat * bound bs.length + toNat bs := by
  rw [toNat, List.foldl_cons, foldl_digits, Nat.zero_mul, Nat.zero_add]

theorem toNat_bigEndian_mod (width n : Nat) : toNat (bigEndian width n) = n % bound width := by
  induction width with
  | zero => simp [bigEndian, toNat, Nat.mod_one]
  | succ width ih =>
    rw [bigEndian, toNat_cons, length_bigEndian, ih, bound_succ, Nat.mul_comm 256, Nat.mod_mul]
    simp [Nat.mul_comm, Nat.add_comm]

theorem toNat_bigEndian {width n : Nat} (h : n < bound width) :
    toNat (bigEndian width n) = n := by
  rw [toNat_bigEndian_mod, Nat.mod_eq_of_lt h]

theorem toNat_lt (bs : Bytes) : toNat bs < bound bs.length := by
  induction bs with
  | nil => simp [toNat]
  | cons b bs ih =>
    rw [toNat_cons, List.length_cons, bound_succ]
    have hb : b.toNat + 1 ≤ 256 := b.toNat_lt
    calc b.toNat * bound bs.length + toNat bs
        < b.toNat * bound bs.length + bound bs.length := by omega
      _ = (b.toNat + 1) * bound bs.length := by rw [Nat.add_mul, Nat.one_mul]
      _ ≤ 256 * bound bs.length := Nat.mul_le_mul_right _ hb

theorem bigEndian_add_mul (width n k : Nat) :
    bigEndian width (n + k * bound width) = bigEndian width n := by
  induction width generalizing k with
  | zero => rfl
  | succ width ih =>
    have e : k * bound (width + 1) = k * 256 * bound width := by
      rw [bound_succ, Nat.mul_assoc]
    rw [bigEndian, bigEndian, e, ih, Nat.add_mul_div_right _ _ (bound_pos _)]
    congr 1
    apply UInt8.toNat_inj.1
    simp

theorem bigEndian_toNat (bs : Bytes) : bigEndian bs.length (toNat bs) = bs := by
  induction bs with
  | nil => rfl
  | cons b bs ih =>
    rw [List.length_cons, bigEndian, toNat_cons]
    have hlt := toNat_lt bs
    congr 1
    · rw [Nat.add_comm, Nat.add_mul_div_right _ _ (bound_pos _),
        Nat.div_eq_of_lt hlt, Nat.zero_add]
      exact UInt8.ofNat_toNat
    · rw [Nat.add_comm, bigEndian_add_mul, ih]

theorem text?_ofText (s : String) : text? (ofText s) = some s := by
  simp [text?, ofText, String.fromUTF8?, String.toUTF8, s.isValidUTF8, String.fromUTF8]

theorem take?_append (a b : Bytes) : take? a.length (a ++ b) = some (a, b) := by
  simp [take?]

theorem take?_eq_some {n : Nat} {bs head rest : Bytes} (h : take? n bs = some (head, rest)) :
    bs = head ++ rest ∧ head.length = n := by
  unfold take? at h
  split at h
  · rename_i hlen
    simp only [Option.some.injEq, Prod.mk.injEq] at h
    obtain ⟨rfl, rfl⟩ := h
    exact ⟨(List.take_append_drop n bs).symm, hlen⟩
  · cases h

end Bytes

end MessageBroker
