import Encapsulation.Bytes
import Mathlib.Data.List.Induction

/-!
# Numbers in bytes

Bytes spell a number, high byte first, and byte strings of one length that spell the same number are
the same. A number that lies between other bytes is read back by cutting its bytes out, which takes
its offset and its width; numbers that lie one after another are all read back so.
-/
namespace Encapsulation.Bytes

/-- The number that bytes spell, high byte first. -/
def number (bytes : Bytes) : Nat := bytes.foldl (fun high byte => high * 256 + byte.toNat) 0

/-- The bytes of a 16-bit number spell it. -/
@[simp]
theorem number_bigEndian (word : UInt16) : number (bigEndian word) = word.toNat := by
  have high : ((word >>> 8).toUInt8).toNat = word.toNat / 256 := by
    have bound : word.toNat < 65536 := word.toNat_lt
    have shifted : (word >>> 8).toNat = word.toNat / 256 := by
      rw [UInt16.toNat_shiftRight, Nat.shiftRight_eq_div_pow]
      rfl
    rw [UInt16.toNat_toUInt8, shifted]
    omega
  have low : word.toUInt8.toNat = word.toNat % 256 := UInt16.toNat_toUInt8 word
  simp only [number, bigEndian, List.foldl_cons, List.foldl_nil, high, low]
  omega

variable {bytes front own rest : Bytes}

/-- Bytes in the middle are found behind those in front. -/
theorem extract_of_eq_append (split : bytes = front ++ own ++ rest) {start stop : Nat}
    (first : start = front.length) (last : stop = start + own.length) :
    bytes.extract start stop = own := by
  have count : stop - start = own.length := by omega
  rw [List.extract_eq_take_drop, count, split, first, List.append_assoc, List.drop_left,
    List.take_left]

/-- A number that fits two bytes is read back where its bytes lie. -/
theorem number_of_eq_append {value : Nat} (fits : value < 65536)
    (split : bytes = front ++ bigEndian (UInt16.ofNat value) ++ rest) {start : Nat}
    (first : start = front.length) : number (bytes.extract start (start + 2)) = value := by
  have last : start + 2 = start + (bigEndian (UInt16.ofNat value)).length := by
    rw [length_bigEndian]
  rw [extract_of_eq_append split first last, number_bigEndian, UInt16.toNat_ofNat_of_lt' fits]

/-- What lies between other bytes in a part of some bytes lies between bytes in the whole. -/
theorem split_within {before middle behind : Bytes} (outer : bytes = front ++ own ++ rest)
    (inner : own = before ++ middle ++ behind) :
    bytes = (front ++ before) ++ middle ++ (behind ++ rest) := by
  rw [outer, inner]
  simp only [List.append_assoc]

/-- What follows the bytes in the middle is found behind those and the ones in front. -/
theorem drop_of_eq_append (split : bytes = front ++ own ++ rest) :
    bytes.drop (front.length + own.length) = rest := by
  rw [split, ← List.length_append, List.drop_left]

/-- One more byte makes a number 256 times as large and adds the byte. -/
theorem number_concat (bytes : Bytes) (byte : UInt8) :
    number (bytes ++ [byte]) = number bytes * 256 + byte.toNat := by
  simp [number]

/-- A single byte spells itself. -/
@[simp]
theorem number_singleton (byte : UInt8) : number [byte] = byte.toNat := by
  simp [number]

/-- Byte strings of one length that spell the same number are the same. -/
theorem eq_of_number_eq {left right : Bytes} (same : left.length = right.length)
    (equal : number left = number right) : left = right := by
  induction left using List.reverseRecOn generalizing right with
  | nil => exact (List.length_eq_zero_iff.mp same.symm).symm
  | append_singleton front byte ih =>
    rcases List.eq_nil_or_concat right with rfl | ⟨otherFront, otherByte, rfl⟩
    · rw [List.length_append] at same
      cases same
    · rw [List.concat_eq_append] at same equal ⊢
      rw [number_concat, number_concat] at equal
      rw [List.length_append, List.length_append] at same
      have bound : byte.toNat < 256 := byte.toNat_lt
      have otherBound : otherByte.toNat < 256 := otherByte.toNat_lt
      have fronts : number front = number otherFront := by omega
      have last : byte = otherByte := UInt8.toNat_inj.mp (by omega)
      rw [ih (Nat.add_right_cancel same) fronts, last]

/-- The number at an offset, in so many bytes. -/
def numberAt (bytes : Bytes) (place : Nat × Nat) : Nat :=
  number (bytes.extract place.1 (place.1 + place.2))

/-- The offsets and widths of things that lie one after another, from the widths. -/
def placesFrom : Nat → List Nat → List (Nat × Nat)
  | _, [] => []
  | start, width :: others => (start, width) :: placesFrom (start + width) others

/-- The numbers of fields that lie one after another behind other bytes are read back. -/
theorem map_numberAt_placesFrom (front : Bytes) (fields : List Bytes) :
    (placesFrom front.length (fields.map List.length)).map (numberAt (front ++ fields.flatten)) =
      fields.map number := by
  induction fields generalizing front with
  | nil => rfl
  | cons field others ih =>
    have split : front ++ (field :: others).flatten = front ++ field ++ others.flatten := by
      rw [List.flatten_cons, List.append_assoc]
    have first : numberAt (front ++ field ++ others.flatten) (front.length, field.length) =
        number field := congrArg number (extract_of_eq_append rfl rfl rfl)
    have onward := ih (front ++ field)
    rw [List.length_append] at onward
    rw [split, List.map_cons, placesFrom, List.map_cons, List.map_cons, first, onward]

/-- Fields of the same widths that spell the same numbers are the same. -/
theorem eq_of_map_number_eq {fields others : List Bytes}
    (widths : fields.map List.length = others.map List.length)
    (numbers : fields.map number = others.map number) : fields = others := by
  induction fields generalizing others with
  | nil => exact (List.map_eq_nil_iff.mp widths.symm).symm
  | cons field rest ih =>
    cases others with
    | nil => cases widths
    | cons other otherRest =>
      obtain ⟨width, restWidths⟩ := List.cons.inj widths
      obtain ⟨value, restNumbers⟩ := List.cons.inj numbers
      rw [eq_of_number_eq width value, ih restWidths restNumbers]

end Encapsulation.Bytes
