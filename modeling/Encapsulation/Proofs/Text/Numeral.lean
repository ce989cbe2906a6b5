import Encapsulation.Field.EtherType
import Encapsulation.Field.Port
import Encapsulation.Proofs.Bytes.Hex
import Mathlib.Data.List.TakeWhile

/-!
# Numbers and bytes as text

What is written of a number or of bytes gives back what it was written of. The hexadecimal form of
bytes in upper case goes back to lower case, which is read back. No digit is a line break.
-/
namespace Encapsulation

namespace Text

/-- A text has no line break. -/
def Inline (text : String) : Prop := '\n' ∉ text.toList

instance (text : String) : Decidable (Inline text) :=
  inferInstanceAs (Decidable ('\n' ∉ text.toList))

/-- Two texts without line breaks make one. -/
theorem Inline.append {front back : String} (clean : Inline front) (otherClean : Inline back) :
    Inline (front ++ back) := by
  rw [Inline, String.toList_append, List.mem_append]
  exact not_or.mpr ⟨clean, otherClean⟩

end Text

namespace Bytes

open Text (Inline)

variable {separator : List Char} {left right : Bytes}

/-- A 16-bit number is told, byte by byte, by its hexadecimal text. -/
theorem hexWord_inj {word other : UInt16} (same : hexWord word = hexWord other) :
    bigEndian word = bigEndian other :=
  toHex_inj same

/-- A 16-bit number is written in four digits. -/
theorem length_hexWord (word : UInt16) : (hexWord word).toList.length = 4 := by
  simp [hexWord, toHex, hexChars, bigEndian]

/-- The hexadecimal form is made of digits and of what the separator is made of. -/
theorem mem_hexChars {bytes : Bytes} {char : Char} (member : char ∈ hexChars separator bytes) :
    (∃ digit : Fin 16, char = Nat.digitChar digit) ∨ char ∈ separator := by
  induction bytes with
  | nil =>
    rw [hexChars, List.map_nil, List.intercalate_nil] at member
    cases member
  | cons byte rest ih =>
    have bound : byte.toNat < 256 := byte.toNat_lt
    rw [hexChars_cons, List.mem_append] at member
    rcases member with pair | tail
    · simp only [hexPair, List.mem_cons, List.not_mem_nil, or_false] at pair
      rcases pair with rfl | rfl
      · exact .inl ⟨⟨byte.toNat / 16, by omega⟩, rfl⟩
      · exact .inl ⟨⟨byte.toNat % 16, by omega⟩, rfl⟩
    · split at tail
      · cases tail
      · rcases List.mem_append.mp tail with inside | onward
        · exact .inr inside
        · exact ih onward

/-- What holds of the digits and of the separator holds of all characters of hexadecimal text. -/
theorem forall_mem_toHex (property : Char → Prop) {separator : String} (bytes : Bytes)
    (digits : ∀ digit : Fin 16, property (Nat.digitChar digit))
    (separators : ∀ char ∈ separator.toList, property char) :
    ∀ char ∈ (toHex separator bytes).toList, property char := by
  intro char member
  rw [toHex, String.toList_ofList] at member
  rcases mem_hexChars member with ⟨digit, rfl⟩ | inside
  · exact digits digit
  · exact separators char inside

/-- Hexadecimal text comes back from upper case, if its separator does. -/
theorem lower_upperHex {separator : String}
    (kept : (separator.toList.all fun char => char.toUpper.toLower == char) = true)
    (bytes : Bytes) :
    (upperHex separator bytes).toList.map Char.toLower = (toHex separator bytes).toList := by
  have separators : ∀ char ∈ separator.toList, char.toUpper.toLower = char :=
    fun char inside => beq_iff_eq.mp (List.all_eq_true.mp kept char inside)
  have back : ∀ char ∈ (toHex separator bytes).toList, char.toUpper.toLower = char :=
    forall_mem_toHex (fun char => char.toUpper.toLower = char) bytes (by decide) separators
  rw [upperHex, String.toUpper, String.toList_map, List.map_map]
  exact (List.map_congr_left back).trans (List.map_id _)

/-- Bytes are told by their hexadecimal text in upper case. -/
theorem upperHex_inj {separator : String}
    (kept : (separator.toList.all fun char => char.toUpper.toLower == char) = true)
    (same : upperHex separator left = upperHex separator right) : left = right := by
  have lower := congrArg (fun text => text.toList.map Char.toLower) same
  simp only [lower_upperHex kept] at lower
  exact toHex_inj (String.toList_inj.mp lower)

/-- Hexadecimal text has no line break, if its separator has none. -/
theorem toHex_inline {separator : String} (inline : Inline separator) (bytes : Bytes) :
    Inline (toHex separator bytes) := by
  intro member
  have other : ∀ char ∈ separator.toList, char ≠ '\n' := fun _ inside same => inline (same ▸ inside)
  exact forall_mem_toHex (fun char => char ≠ '\n') bytes (by decide) other '\n' member rfl

/-- Hexadecimal text in upper case has no line break, if its separator has none in upper case. -/
theorem upperHex_inline {separator : String}
    (inline : '\n' ∉ separator.toList.map Char.toUpper) (bytes : Bytes) :
    Inline (upperHex separator bytes) := by
  have other : ∀ char ∈ separator.toList, char.toUpper ≠ '\n' :=
    fun char inside same => inline (List.mem_map.mpr ⟨char, inside, same⟩)
  intro member
  rw [upperHex, String.toUpper, String.toList_map] at member
  obtain ⟨char, inside, same⟩ := List.mem_map.mp member
  exact forall_mem_toHex (fun char => char.toUpper ≠ '\n') bytes (by decide) other char inside same

end Bytes

namespace Text

/-- A number in decimal has digits only. -/
theorem isDigit_of_mem_toString {number : Nat} {char : Char}
    (member : char ∈ (toString number).toList) : char.isDigit = true := by
  rw [Nat.toString_eq_repr, Nat.toList_repr] at member
  exact Nat.isDigit_of_mem_toDigits (by decide) (by decide) member

/-- A number is told by its decimal form. -/
theorem toString_inj {number other : Nat} (same : toString number = toString other) :
    number = other := by
  have digits : Nat.toDigits 10 number = Nat.toDigits 10 other := by
    have chars := congrArg String.toList same
    rw [Nat.toString_eq_repr, Nat.toString_eq_repr, Nat.toList_repr, Nat.toList_repr] at chars
    exact chars
  calc
    number = Nat.ofDigitChars 10 (Nat.toDigits 10 number) 0 := Nat.ofDigitChars_ten_toDigits.symm
    _ = Nat.ofDigitChars 10 (Nat.toDigits 10 other) 0 := by rw [digits]
    _ = other := Nat.ofDigitChars_ten_toDigits

/-- A number in decimal has no line break. -/
theorem toString_inline (number : Nat) : Inline (toString number) := by
  intro member
  have digit := isDigit_of_mem_toString member
  exact absurd digit (by decide)

end Text

namespace Port

/-- The digits that a port begins with as text are those of its number. -/
theorem takeWhile_display (port : Port) :
    port.display.toList.takeWhile Char.isDigit = (toString port.number.toNat).toList := by
  have digits : ∀ char ∈ (toString port.number.toNat).toList, char.isDigit = true :=
    fun _ member => Text.isDigit_of_mem_toString member
  unfold display
  cases port.service? with
  | none => exact List.takeWhile_eq_self_iff.mpr digits
  | some service =>
    have after : (" (" ++ service ++ ")").toList.takeWhile Char.isDigit = [] := by
      simp
    simp only [String.append_assoc] at after ⊢
    rw [String.toList_append, List.takeWhile_append_of_pos digits, after, List.append_nil]

/-- A port is told by its text. -/
theorem display_inj {port other : Port} (same : port.display = other.display) :
    port.number = other.number := by
  have digits := congrArg (fun text => text.toList.takeWhile Char.isDigit) same
  simp only [takeWhile_display] at digits
  exact UInt16.toNat_inj.mp (Text.toString_inj (String.toList_inj.mp digits))

/-- The names of the services. -/
theorem mem_of_service? {port : Port} {service : String} (known : port.service? = some service) :
    service ∈ ["DNS", "DHCP Server", "DHCP Client", "NTP", "SNMP"] := by
  grind [service?]

/-- The text of a port has no line break. -/
theorem display_inline (port : Port) : Text.Inline port.display := by
  have number := Text.toString_inline port.number.toNat
  unfold display
  cases known : port.service? with
  | none => exact number
  | some service =>
    have names : ∀ name ∈ ["DNS", "DHCP Server", "DHCP Client", "NTP", "SNMP"],
        Text.Inline name := by decide
    have name := names service (mem_of_service? known)
    exact ((number.append (by decide)).append name).append (by decide)

end Port

namespace EtherType

/-- The text of a type has no line break. -/
theorem display_inline (etherType : EtherType) : Text.Inline etherType.display := by
  cases etherType with
  | custom code => exact .append (by decide) (Bytes.upperHex_inline (by decide) _)
  | _ => decide

end EtherType

end Encapsulation
