import Encapsulation.Access
import Encapsulation.Bytes.Hash
import Encapsulation.Header

/-!
# Views of headers

Each view of a header is computed when it is first asked for. The hexadecimal form and the hash
are taken from the bytes, and the text of a library header shows its length, so these ask for other
cells of the same header.
-/
namespace Encapsulation.Header

open Access (remember)
open Memo.Eval (emit)

/-- The length of a header. -/
def length (object : Object) (header : Header) : Access Nat :=
  remember object .length (return header.size)

/-- The bytes of a header; building them is reported. -/
def readBytes (object : Object) (header : Header) : Access Bytes :=
  remember object .bytes do
    let built := header.bytes
    emit (.bytesBuilt object header.kind built.length)
    return built

/-- The hexadecimal form of a header, with colons. -/
def hex (object : Object) (header : Header) : Access String :=
  remember object .hex do
    return Bytes.toHex ":" (← header.readBytes object)

/-- The text of a header. -/
def text (object : Object) (header : Header) : Access String :=
  remember object .text
    (match header with
    | ethernet fields => return fields.describe (← header.length object)
    | llcSnap fields => return fields.describe (← header.length object)
    | udp fields => return fields.describe (← header.length object)
    | custom fields =>
      match fields.text with
      | some given => return given
      | none => header.hex object)

/-- The hash of a header. -/
def hash (object : Object) (header : Header) : Access Int32 :=
  remember object .hash do
    return Bytes.hash (← header.readBytes object)

/-- A view of a header. -/
def read (object : Object) (header : Header) : (view : View) → Access view.Value
  | .length => header.length object
  | .bytes => header.readBytes object
  | .hex => header.hex object
  | .text => header.text object
  | .hash => header.hash object

/-- Whether a header counts as equal to another one: an object equals itself, and otherwise the
first one's kind has to accept the other's, and the bytes have to agree. The bytes are only asked
for if the kinds fit, the first header's before the other's. -/
def equals (object : Object) (header : Header) (otherObject : Object) (other : Header) :
    Access Bool := do
  if object = otherObject then
    return true
  if !header.kind.accepts other.kind then
    return false
  let own ← header.readBytes object
  let others ← other.readBytes otherObject
  return own == others

end Encapsulation.Header
