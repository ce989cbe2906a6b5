import Encapsulation.Bytes

/-!
# Hexadecimal text of bytes

Each byte is written as two lower-case digits, high half first. A byte string is the pairs of its
bytes in order with a separator between neighbours, and none before the first or after the last.
-/
namespace Encapsulation.Bytes

/-- The two lower-case hexadecimal digits of a byte, high half first. -/
def hexPair (byte : UInt8) : List Char :=
  [Nat.digitChar (byte.toNat / 16), Nat.digitChar (byte.toNat % 16)]

/-- A byte is written in exactly two digits. -/
@[simp]
theorem length_hexPair (byte : UInt8) : (hexPair byte).length = 2 := rfl

/-- The pairs of the bytes in order, with the separator between neighbours. -/
def hexChars (separator : List Char) (bytes : Bytes) : List Char :=
  List.intercalate separator (bytes.map hexPair)

/-- The hexadecimal text of a byte string. -/
def toHex (separator : String) (bytes : Bytes) : String :=
  String.ofList (hexChars separator.toList bytes)

/-- The four lower-case hexadecimal digits of a 16-bit number. -/
def hexWord (word : UInt16) : String := toHex "" (bigEndian word)

/-- The same text with its letters in upper case. -/
def upperHex (separator : String) (bytes : Bytes) : String :=
  (toHex separator bytes).toUpper

end Encapsulation.Bytes
