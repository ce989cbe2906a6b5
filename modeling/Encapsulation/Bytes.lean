/-!
# Byte strings

Everything that travels on the wire is a list of bytes, first byte first. Numbers of two bytes
are written big-endian, high byte first.
-/
namespace Encapsulation

/-- Bytes in wire order. -/
abbrev Bytes := List UInt8

namespace Bytes

/-- The two bytes of a 16-bit number, high byte first. -/
def bigEndian (word : UInt16) : Bytes := [(word >>> 8).toUInt8, word.toUInt8]

/-- A 16-bit number takes two bytes. -/
@[simp]
theorem length_bigEndian (word : UInt16) : (bigEndian word).length = 2 := rfl

end Bytes

end Encapsulation
