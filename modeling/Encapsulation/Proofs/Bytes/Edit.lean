import Encapsulation.Proofs.Bytes.Polynomial
import Mathlib.NumberTheory.Multiplicity
import Mathlib.RingTheory.Coprime.Lemmas

/-!
# Small edits of a byte string

A byte is replaced by a different one, or two different bytes change places. Either way the
polynomial of the string changes by the difference of two bytes times a power of thirty-one, and,
for an exchange, times one less than a power of thirty-one. Powers of thirty-one are odd. One less
than the power whose exponent is the distance of the exchange has at most 24 factors of two while
the distance is below 2 ^ 20, and a difference of two bytes has at most seven. So the change is no
multiple of 2 ^ 32, and the hash tells the strings apart.
-/
namespace Encapsulation.Bytes

/-- One small edit leads from some bytes to others. -/
inductive Edited (bytes : Bytes) : Bytes → Prop where
  /-- One byte is replaced by a different one. -/
  | replaced (position : Nat) (within : position < bytes.length) (byte : UInt8)
    (different : bytes[position] ≠ byte) : Edited bytes (bytes.set position byte)
  /-- Two different bytes change places, whose positions are less than 2 ^ 20 apart. -/
  | exchanged (position distance : Nat) (within : position + distance < bytes.length)
    (near : distance < 2 ^ 20) (different : bytes[position] ≠ bytes[position + distance]) :
    Edited bytes
      ((bytes.set position bytes[position + distance]).set (position + distance) bytes[position])

variable {bytes other : Bytes} {value : ℤ} {distance : Nat}

/-- Bytes whose signed values differ by a multiple of 2 ^ 8 are the same. -/
theorem eq_of_dvd_coefficient_sub {left right : UInt8}
    (divides : (2 ^ 8 : ℤ) ∣ coefficient left - coefficient right) : left = right := by
  have leftLeast : -2 ^ 7 ≤ left.toInt8.toInt := Int8.le_toInt _
  have leftMost : left.toInt8.toInt < 2 ^ 7 := Int8.toInt_lt _
  have rightLeast : -2 ^ 7 ≤ right.toInt8.toInt := Int8.le_toInt _
  have rightMost : right.toInt8.toInt < 2 ^ 7 := Int8.toInt_lt _
  have values : left.toInt8.toInt = right.toInt8.toInt := by
    unfold coefficient at divides
    omega
  have signed : left.toInt8 = right.toInt8 := Int8.toInt_inj.mp values
  simpa using congrArg Int8.toUInt8 signed

/-- A power of thirty-one has no factor of two to give. -/
theorem dvd_of_dvd_mul_pow {count : Nat} (divides : (2 ^ 32 : ℤ) ∣ value * 31 ^ count) :
    (2 ^ 32 : ℤ) ∣ value := by
  have coprime : IsCoprime (2 ^ 32 : ℤ) (31 ^ count) :=
    IsCoprime.pow (Int.isCoprime_iff_gcd_eq_one.mpr (by decide))
  exact coprime.dvd_of_dvd_mul_right divides

/-- One less than a power of thirty-one has at most 24 factors of two if the exponent is below
2 ^ 20: five for the sum of thirty-one and one, and those of the exponent, which are fewer than
twenty. -/
theorem not_dvd_pow_sub_one (apart : 0 < distance) (near : distance < 2 ^ 20) :
    ¬ (2 ^ 25 : ℤ) ∣ 31 ^ distance - 1 := by
  intro divides
  rcases Nat.even_or_odd distance with even | odd
  · have sum : emultiplicity (2 : ℤ) (31 + 1) = 5 := emultiplicity_eq_coe.mpr (by decide)
    have difference : emultiplicity (2 : ℤ) (31 - 1) = 1 := emultiplicity_eq_coe.mpr (by decide)
    have lifted : emultiplicity (2 : ℤ) (31 ^ distance - 1) + 1 =
        5 + 1 + emultiplicity (2 : ℤ) distance := by
      have law := Int.two_pow_sub_pow (x := 31) (y := 1) (by decide) (by decide) even
      rwa [one_pow, sum, difference] at law
    have many : 5 + 1 + (20 : ℕ∞) ≤ 5 + 1 + emultiplicity (2 : ℤ) distance := by
      calc
        5 + 1 + (20 : ℕ∞) = 25 + 1 := by norm_num
        _ ≤ emultiplicity (2 : ℤ) (31 ^ distance - 1) + 1 :=
          add_le_add_left (pow_dvd_iff_le_emultiplicity.mp divides) 1
        _ = 5 + 1 + emultiplicity (2 : ℤ) distance := lifted
    have twenty : (20 : ℕ) ≤ emultiplicity (2 : ℤ) distance :=
      (ENat.add_le_add_iff_left (by decide)).mp many
    have multiple : (2 ^ 20 : ℤ) ∣ distance := pow_dvd_iff_le_emultiplicity.mpr twenty
    have most : 2 ^ 20 ≤ distance := Nat.le_of_dvd apart (by exact_mod_cast multiple)
    omega
  · -- An odd power of thirty-one is one less than a multiple of thirty-two.
    have sum : (31 + 1 : ℤ) ∣ 31 ^ distance + 1 ^ distance := odd.add_dvd_pow_add_pow 31 1
    rw [one_pow] at sum
    omega

/-- What makes a multiple of 2 ^ 32 with one less than such a power has eight factors of two. -/
theorem dvd_of_dvd_mul_pow_sub_one (apart : 0 < distance) (near : distance < 2 ^ 20)
    (divides : (2 ^ 32 : ℤ) ∣ value * (31 ^ distance - 1)) : (2 ^ 8 : ℤ) ∣ value := by
  have few : emultiplicity (2 : ℤ) (31 ^ distance - 1) < 25 :=
    emultiplicity_lt_iff_not_dvd.mpr (not_dvd_pow_sub_one apart near)
  have many : (32 : ℕ) ≤
      emultiplicity (2 : ℤ) value + emultiplicity (2 : ℤ) (31 ^ distance - 1) := by
    rw [← emultiplicity_mul Int.prime_two]
    exact pow_dvd_iff_le_emultiplicity.mp divides
  apply pow_dvd_iff_le_emultiplicity.mpr
  by_contra fewer
  obtain ⟨own, ownCount⟩ := ENat.ne_top_iff_exists.mp (ne_top_of_lt (not_le.mp fewer))
  obtain ⟨others, othersCount⟩ := ENat.ne_top_iff_exists.mp (ne_top_of_lt few)
  rw [← ownCount] at fewer many
  rw [← othersCount] at few many
  norm_cast at fewer few many
  omega

/-- One byte replaced by a different one changes the hash. -/
theorem hash_ne_of_replaced {position : Nat} (within : position < bytes.length) {byte : UInt8}
    (different : bytes[position] ≠ byte) : hash bytes ≠ hash (bytes.set position byte) := by
  intro same
  have change : polynomial bytes - polynomial (bytes.set position byte) =
      (coefficient bytes[position] - coefficient byte) * 31 ^ (bytes.length - 1 - position) := by
    rw [polynomial_set within]
    ring
  rw [hash_eq_iff List.length_set.symm, change] at same
  have multiple : (2 ^ 32 : ℤ) ∣ coefficient bytes[position] - coefficient byte :=
    dvd_of_dvd_mul_pow same
  exact different (eq_of_dvd_coefficient_sub (dvd_trans (by decide) multiple))

/-- Two different bytes that change places over a small distance change the hash. -/
theorem hash_ne_of_exchanged {position : Nat} (within : position + distance < bytes.length)
    (near : distance < 2 ^ 20) (different : bytes[position] ≠ bytes[position + distance]) :
    hash bytes ≠ hash
      ((bytes.set position bytes[position + distance]).set (position + distance)
        bytes[position]) := by
  intro same
  have apart : 0 < distance := by
    apply Nat.pos_of_ne_zero
    rintro rfl
    exact different rfl
  have first : position < bytes.length := by omega
  have second : position + distance < (bytes.set position bytes[position + distance]).length := by
    rwa [List.length_set]
  have untouched : (bytes.set position bytes[position + distance])[position + distance] =
      bytes[position + distance] := List.getElem_set_ne (by omega) _
  have power : bytes.length - 1 - position =
      bytes.length - 1 - (position + distance) + distance := by omega
  have change : polynomial bytes - polynomial
      ((bytes.set position bytes[position + distance]).set (position + distance) bytes[position]) =
      (coefficient bytes[position] - coefficient bytes[position + distance]) *
        (31 ^ distance - 1) * 31 ^ (bytes.length - 1 - (position + distance)) := by
    rw [polynomial_set second, polynomial_set first, untouched, List.length_set, power]
    ring
  rw [hash_eq_iff (by rw [List.length_set, List.length_set]), change] at same
  have multiple : (2 ^ 32 : ℤ) ∣ (coefficient bytes[position] -
      coefficient bytes[position + distance]) * (31 ^ distance - 1) := dvd_of_dvd_mul_pow same
  exact different (eq_of_dvd_coefficient_sub (dvd_of_dvd_mul_pow_sub_one apart near multiple))

/-- A small edit changes the hash. -/
theorem Edited.hash_ne (edited : Edited bytes other) : hash bytes ≠ hash other := by
  cases edited with
  | replaced position within byte different => exact hash_ne_of_replaced within different
  | exchanged position distance within near different =>
    exact hash_ne_of_exchanged within near different

end Encapsulation.Bytes
