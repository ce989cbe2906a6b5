import Encapsulation.Bytes.Hex
import Encapsulation.Text.Record

/-!
# Hardware addresses

The six-byte address of a station on a link, written as six upper-case pairs with colons.
-/
namespace Encapsulation

/-- A hardware address. -/
structure MacAddress where
  /-- The six bytes in wire order. -/
  octets : Vector UInt8 6
deriving DecidableEq

namespace MacAddress

/-- The address of every station. -/
def broadcast : MacAddress := ⟨#v[0xff, 0xff, 0xff, 0xff, 0xff, 0xff]⟩

/-- The address of no station. -/
def zero : MacAddress := ⟨#v[0, 0, 0, 0, 0, 0]⟩

/-- The group address to which devices announce themselves to their neighbours. -/
def cdpMulticast : MacAddress := ⟨#v[0x01, 0x00, 0x0c, 0xcc, 0xcc, 0xcc]⟩

/-- The bytes of an address. -/
def bytes (address : MacAddress) : Bytes := address.octets.toList

/-- The address made of six bytes, if there are six. -/
def ofBytes? (bytes : Bytes) : Option MacAddress :=
  if h : bytes.toArray.size = 6 then some ⟨bytes.toArray, h⟩ else none

/-- An address takes six bytes. -/
@[simp]
theorem length_bytes (address : MacAddress) : address.bytes.length = 6 := by
  simp [bytes]

/-- The address as text. -/
def display (address : MacAddress) : String := Bytes.upperHex ":" address.bytes

/-- How an address is built. -/
def dump (address : MacAddress) : String :=
  Text.tuple "MacAddress" [Text.byteList address.bytes]

end MacAddress

end Encapsulation
