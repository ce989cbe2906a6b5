import Encapsulation.Bytes.Hash
import Mathlib.Algebra.BigOperators.Fin
import Mathlib.Tactic.Ring

/-!
# The hash as a polynomial

Before it is cut down to 32 bits, the hash of a byte string is an integer: the bytes, read as signed
numbers, are the coefficients of a polynomial in thirty-one, the first byte that of the highest
power, and the one that the hash starts at stands before all of them. Cutting down goes through sums
and products, so what holds of the polynomials holds of the hashes, up to multiples of 2 ^ 32.
-/
namespace Encapsulation.Bytes

/-- A byte read as a signed integer. -/
def coefficient (byte : UInt8) : ℤ := byte.toInt8.toInt

/-- The polynomial in thirty-one whose coefficients are the bytes, without the one in front. -/
def polynomial : Bytes → ℤ
  | [] => 0
  | byte :: rest => coefficient byte * 31 ^ rest.length + polynomial rest

/-- The hash of two parts, out of the hash of each and the number of bytes in the second one. The
one in front of the second part is taken away again. -/
def joinHash (front back : Int32) (size : Nat) : Int32 := front * 31 ^ size + back - 31 ^ size

variable {bytes left right : Bytes} {position : Nat}

/-- A power is cut down as its base is. -/
theorem ofInt_pow (base : ℤ) (count : Nat) :
    Int32.ofInt (base ^ count) = Int32.ofInt base ^ count := by
  induction count with
  | zero =>
    rw [pow_zero, Int32.pow_zero]
    rfl
  | succ count ih => rw [pow_succ, Int32.ofInt_mul, ih, Int32.pow_succ]

/-- One byte more takes the integer to the next power and adds the byte. -/
theorem hashStep_ofInt (value : ℤ) (byte : UInt8) :
    hashStep (Int32.ofInt value) byte = Int32.ofInt (value * 31 + coefficient byte) := by
  rw [Int32.ofInt_add, Int32.ofInt_mul, coefficient, Int32.ofInt_int8ToInt]
  rfl

/-- The bytes that are taken in raise what was there before by their number. -/
theorem foldl_hashStep (bytes : Bytes) (value : ℤ) :
    bytes.foldl hashStep (Int32.ofInt value) =
      Int32.ofInt (value * 31 ^ bytes.length + polynomial bytes) := by
  induction bytes generalizing value with
  | nil => simp [polynomial]
  | cons byte rest ih =>
    have raised : (value * 31 + coefficient byte) * 31 ^ rest.length + polynomial rest =
        value * 31 ^ (rest.length + 1) +
          (coefficient byte * 31 ^ rest.length + polynomial rest) := by ring
    rw [List.foldl_cons, hashStep_ofInt, ih, polynomial, List.length_cons, raised]

/-- The hash is the polynomial with a one in front, cut down to 32 bits. -/
theorem hash_eq_ofInt (bytes : Bytes) :
    hash bytes = Int32.ofInt (31 ^ bytes.length + polynomial bytes) := by
  have start := foldl_hashStep bytes 1
  rwa [one_mul] at start

/-- The polynomial as a sum over the positions of the bytes. -/
theorem polynomial_eq_sum (bytes : Bytes) :
    polynomial bytes =
      ∑ i : Fin bytes.length, coefficient bytes[i] * 31 ^ (bytes.length - 1 - i) := by
  induction bytes with
  | nil => rfl
  | cons byte rest ih =>
    have powers : ∀ i : Fin rest.length, rest.length - (i + 1) = rest.length - 1 - i := by omega
    rw [polynomial, ih]
    simp [Fin.sum_univ_succ, powers]

/-- The hash of two parts out of the hash of each. -/
theorem hash_append_eq_joinHash (front back : Bytes) :
    hash (front ++ back) = joinHash (hash front) (hash back) back.length := by
  have power : (31 : Int32) ^ back.length = Int32.ofInt (31 ^ back.length) :=
    (ofInt_pow 31 back.length).symm
  have joined : (31 ^ front.length + polynomial front) * 31 ^ back.length + polynomial back =
      (31 ^ front.length + polynomial front) * 31 ^ back.length +
        (31 ^ back.length + polynomial back) - 31 ^ back.length := by ring
  rw [hash_append, hash_eq_ofInt front, foldl_hashStep, joined, Int32.ofInt_sub, Int32.ofInt_add,
    Int32.ofInt_mul, joinHash, power, hash_eq_ofInt]

/-- Nothing in the second part leaves the hash of the first one. -/
theorem joinHash_nil (front : Int32) : joinHash front (hash []) 0 = front := by
  have empty : hash [] = 1 := rfl
  rw [joinHash, empty, Int32.pow_zero, Int32.mul_one, Int32.add_sub_cancel]

/-- Another byte at some position changes its coefficient and no other one. -/
theorem polynomial_set (within : position < bytes.length) (byte : UInt8) :
    polynomial (bytes.set position byte) = polynomial bytes +
      (coefficient byte - coefficient bytes[position]) * 31 ^ (bytes.length - 1 - position) := by
  induction bytes generalizing position with
  | nil => exact absurd within (Nat.not_lt_zero _)
  | cons old rest ih =>
    cases position with
    | zero =>
      have power : (old :: rest).length - 1 - 0 = rest.length := rfl
      rw [List.set_cons_zero, polynomial, polynomial, List.getElem_cons_zero, power]
      ring
    | succ position =>
      have inside : position < rest.length := Nat.lt_of_succ_lt_succ within
      have power : (old :: rest).length - 1 - (position + 1) = rest.length - 1 - position := by
        rw [List.length_cons]
        omega
      rw [List.set_cons_succ, polynomial, polynomial, List.getElem_cons_succ, power,
        List.length_set, ih inside]
      ring

/-- Byte strings of one length have one hash if and only if their polynomials differ by a multiple
of 2 ^ 32. -/
theorem hash_eq_iff (same : left.length = right.length) :
    hash left = hash right ↔ (2 ^ 32 : ℤ) ∣ polynomial left - polynomial right := by
  have difference : (31 ^ left.length + polynomial left) - (31 ^ right.length + polynomial right) =
      polynomial left - polynomial right := by
    rw [same]
    ring
  rw [hash_eq_ofInt, hash_eq_ofInt, ← Int32.toInt_inj, Int32.toInt_ofInt, Int32.toInt_ofInt,
    Int.bmod_eq_bmod_iff_bmod_sub_eq_zero, difference, ← Int.dvd_iff_bmod_eq_zero]
  rfl

end Encapsulation.Bytes
