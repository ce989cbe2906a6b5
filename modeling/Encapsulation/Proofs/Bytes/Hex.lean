import Encapsulation.Bytes.Hex

/-!
# Reading hexadecimal text back

The digits of a byte are found by their place: each pair stands two digits and one separator behind
the pair before it. So a reader that knows how long the separator is, and nothing else about it,
gets all bytes back, also where the separator is empty or is made of digits itself. Two byte strings
that are written with one separator are told apart by their texts.
-/
namespace Encapsulation.Bytes

/-- The digits in the order of their values. -/
def digits : List Char :=
  ['0', '1', '2', '3', '4', '5', '6', '7', '8', '9', 'a', 'b', 'c', 'd', 'e', 'f']

/-- The byte of two digits, high half first. -/
def readPair (high low : Char) : Option UInt8 := do
  let upper ← digits.idxOf? high
  let lower ← digits.idxOf? low
  return UInt8.ofNat (upper * 16 + lower)

/-- The bytes of the pairs of digits that stand in a text with a gap after each of them. What stands
in a gap is not looked at. -/
def readHex (gap : Nat) : List Char → Option Bytes
  | [] => some []
  | [_] => none
  | high :: low :: rest => do
    let byte ← readPair high low
    let others ← readHex gap (rest.drop gap)
    return byte :: others
termination_by text => text.length
decreasing_by
  simp only [List.length_drop, List.length_cons]
  omega

/-- The bytes of a hexadecimal text, read at a stride of two digits and a gap. -/
def ofHex (gap : Nat) (text : String) : Option Bytes := readHex gap text.toList

/-- The value of a digit is its place among the digits. -/
theorem idxOf?_digitChar {value : Nat} (small : value < 16) :
    digits.idxOf? (Nat.digitChar value) = some value := by
  have places : ∀ digit : Fin 16, digits.idxOf? (Nat.digitChar digit) = some digit.val := by decide
  exact places ⟨value, small⟩

/-- A byte is read back from its two digits. -/
theorem readPair_digitChar (byte : UInt8) :
    readPair (Nat.digitChar (byte.toNat / 16)) (Nat.digitChar (byte.toNat % 16)) = some byte := by
  have bound : byte.toNat < 256 := byte.toNat_lt
  have high := idxOf?_digitChar (show byte.toNat / 16 < 16 by omega)
  have low := idxOf?_digitChar (show byte.toNat % 16 < 16 by omega)
  have halves : byte.toNat / 16 * 16 + byte.toNat % 16 = byte.toNat := by omega
  simp only [readPair, high, low, Option.bind_eq_bind, Option.bind_some, halves,
    UInt8.ofNat_toNat, Option.pure_def]

/-- The bytes behind a pair are read behind the gap after it. -/
theorem readHex_hexPair (gap : Nat) (byte : UInt8) (rest : List Char) :
    readHex gap (hexPair byte ++ rest) = (readHex gap (rest.drop gap)).map (byte :: ·) := by
  rw [hexPair, List.cons_append, List.cons_append, List.nil_append, readHex, readPair_digitChar,
    Option.bind_eq_bind, Option.bind_some]
  cases readHex gap (rest.drop gap) <;> rfl

variable {separator : List Char} {left right : Bytes}

/-- The pair of a byte comes before a separator and the other pairs. -/
theorem hexChars_cons (separator : List Char) (byte : UInt8) (rest : Bytes) :
    hexChars separator (byte :: rest) =
      hexPair byte ++ if rest = [] then [] else separator ++ hexChars separator rest := by
  cases rest with
  | nil => simp [hexChars]
  | cons next rest => simp [hexChars]

/-- Bytes are read back from their hexadecimal form: the gap takes away what stands before the next
pair, whether that is a separator or, after the last pair, nothing. -/
theorem readHex_hexChars (separator : List Char) (bytes : Bytes) :
    readHex separator.length (hexChars separator bytes) = some bytes := by
  induction bytes with
  | nil => rw [hexChars, List.map_nil, List.intercalate_nil, readHex]
  | cons byte rest ih =>
    have onward : (if rest = [] then [] else separator ++ hexChars separator rest).drop
        separator.length = hexChars separator rest := by
      by_cases last : rest = []
      · rw [if_pos last, last, List.drop_nil]
        rfl
      · rw [if_neg last, List.drop_left]
    rw [hexChars_cons, readHex_hexPair, onward, ih, Option.map_some]

/-- Bytes are read back from their hexadecimal text, whatever the separator is. -/
theorem ofHex_toHex (separator : String) (bytes : Bytes) :
    ofHex separator.length (toHex separator bytes) = some bytes := by
  rw [ofHex, toHex, String.toList_ofList, ← String.length_toList]
  exact readHex_hexChars separator.toList bytes

/-- Bytes are told by their hexadecimal text. -/
theorem toHex_inj {separator : String} (same : toHex separator left = toHex separator right) :
    left = right := by
  have read := congrArg (ofHex separator.length) same
  rw [ofHex_toHex, ofHex_toHex] at read
  exact Option.some.inj read

/-- The separator has to be known: with another one, another byte string has the same text. -/
example : toHex "00" [1, 2] = toHex "" [1, 0, 2] := by decide

/-- Each byte takes two digits, and each byte but the first a separator before them. -/
theorem length_hexChars (separator : List Char) (bytes : Bytes) :
    (hexChars separator bytes).length =
      2 * bytes.length + (bytes.length - 1) * separator.length := by
  induction bytes with
  | nil => simp [hexChars]
  | cons byte rest ih =>
    rw [hexChars_cons, List.length_append, length_hexPair]
    cases rest with
    | nil => simp
    | cons next others =>
      have more : (others.length + 1) * separator.length =
          others.length * separator.length + separator.length := Nat.succ_mul _ _
      rw [if_neg (List.cons_ne_nil next others), List.length_append, ih]
      simp only [List.length_cons, Nat.add_sub_cancel]
      omega

/-- The number of characters of a hexadecimal text. -/
theorem length_toHex (separator : String) (bytes : Bytes) :
    (toHex separator bytes).length =
      2 * bytes.length + (bytes.length - 1) * separator.length := by
  rw [toHex, String.length_ofList, length_hexChars, String.length_toList]

/-- The form of two byte strings that have bytes is that of both with a separator in between. -/
theorem hexChars_append (separator : List Char) (front : left ≠ []) (back : right ≠ []) :
    hexChars separator (left ++ right) =
      hexChars separator left ++ separator ++ hexChars separator right := by
  induction left with
  | nil => exact absurd rfl front
  | cons byte rest ih =>
    have more : rest ++ right ≠ [] := List.append_ne_nil_of_right_ne_nil rest back
    rw [List.cons_append, hexChars_cons, if_neg more, hexChars_cons]
    by_cases last : rest = []
    · rw [last, if_pos rfl, List.nil_append, List.append_nil, List.append_assoc]
    · rw [if_neg last, ih last]
      simp only [List.append_assoc]

/-- The text of two byte strings that have bytes is that of both with a separator in between. -/
theorem toHex_append (separator : String) (front : left ≠ []) (back : right ≠ []) :
    toHex separator (left ++ right) =
      toHex separator left ++ separator ++ toHex separator right := by
  apply String.toList_inj.mp
  rw [String.toList_append, String.toList_append, toHex, toHex, toHex, String.toList_ofList,
    String.toList_ofList, String.toList_ofList, hexChars_append separator.toList front back]

end Encapsulation.Bytes
