import Encapsulation.Bytes

/-!
# Hash of a byte string

The hash starts at one and takes in the bytes from the first to the last: the value so far times
thirty-one, plus the byte read as a signed number. All arithmetic wraps at 32 bits, so the hash
is a polynomial in thirty-one over the signed bytes.
-/
namespace Encapsulation.Bytes

/-- A byte read as a signed number of 32 bits. -/
def signed (byte : UInt8) : Int32 := byte.toInt8.toInt32

/-- The hash after one more byte. -/
def hashStep (hash : Int32) (byte : UInt8) : Int32 := hash * 31 + signed byte

/-- The order-sensitive 32-bit hash of a byte string. -/
def hash (bytes : Bytes) : Int32 := bytes.foldl hashStep 1

/-- The hash of a string of two parts takes in the second part after the first. -/
theorem hash_append (front back : Bytes) :
    hash (front ++ back) = back.foldl hashStep (hash front) := by
  simp [hash]

end Encapsulation.Bytes
