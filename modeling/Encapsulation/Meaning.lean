import Encapsulation.Access.Packet

/-!
# What views mean

The meaning of a view is what it shows by the fields of a packet or header alone: no cell is asked
and nothing is remembered. Length and bytes are found by two recursions of their own, so that they
agree is a law about layers (`Header.length_bytes` for headers) and not part of the definitions.
Lengths are exact sums here, whether they fit 64 bits or not.
-/
namespace Encapsulation

namespace Header

/-- The text of a header by its fields. -/
def plainText (header : Header) : String :=
  match header with
  | ethernet fields => fields.describe header.size
  | llcSnap fields => fields.describe header.size
  | udp fields => fields.describe header.size
  | custom fields =>
    match fields.text with
    | some given => given
    | none => Bytes.toHex ":" header.bytes

/-- The meaning of a view of a header. -/
def meaning (header : Header) : (view : View) → view.Value
  | .length => header.size
  | .bytes => header.bytes
  | .hex => Bytes.toHex ":" header.bytes
  | .text => header.plainText
  | .hash => Bytes.hash header.bytes

/-- The size of a header is the number of its bytes. -/
theorem length_bytes (header : Header) : header.bytes.length = header.size := by
  have sizes : ∀ fields : List Bytes,
      fields.flatten.length = fields.foldr (fun field total => field.length + total) 0 := by
    intro fields
    induction fields with
    | nil => rfl
    | cons field rest ih => simp [ih]
  exact sizes header.fields

end Header

namespace Layer

/-- The bytes of the header of a layer. -/
def headerBytes (layer : Layer) : Bytes :=
  match layer.header? with
  | some header => header.bytes
  | none => []

/-- The size of the header of a layer. -/
def headerSize (layer : Layer) : Nat :=
  match layer.header? with
  | some header => header.size
  | none => 0

/-- The text of the header of a layer. -/
def headerText (layer : Layer) : String :=
  match layer.header? with
  | some header => header.plainText
  | none => ""

/-- The bytes of a layer around some bytes. -/
def plainBytes (layer : Layer) (payload : Bytes) : Bytes :=
  match layer.replacement? with
  | some replacement => replacement
  | none => layer.headerBytes ++ payload ++ layer.pad

/-- The length of a layer around a payload, given the length of the payload and the bytes of the
layer. -/
def plainLength (layer : Layer) (payloadLength : Nat) (ownBytes : Bytes) : Nat :=
  match layer.lengthRule with
  | .composed => layer.headerSize + payloadLength + layer.pad.length
  | .measured => ownBytes.length
  | .fixed count => count.toNat

end Layer

namespace Packet

/-- The bytes of a packet by its fields. -/
def plainBytes : Packet → Bytes
  | .unknown data => data
  | .bare layer => layer.plainBytes []
  | .wrap layer payload => layer.plainBytes (plainBytes payload)

/-- The length of a packet by its fields. -/
def plainLength : Packet → Nat
  | .unknown data => data.length
  | .bare layer => layer.plainLength 0 (plainBytes (.bare layer))
  | .wrap layer payload =>
    layer.plainLength (plainLength payload) (plainBytes (.wrap layer payload))

/-- The text of a packet by its fields. -/
def plainText : Packet → String
  | .unknown data => describeData data data.length
  | .bare layer => layer.headerText ++ "" ++ layer.padText
  | .wrap layer payload => layer.headerText ++ plainText payload ++ layer.padText

/-- The meaning of a view of a packet. -/
def meaning (packet : Packet) : (view : View) → view.Value
  | .length => plainLength packet
  | .bytes => plainBytes packet
  | .hex => Bytes.toHex " " (plainBytes packet)
  | .text => plainText packet
  | .hash => Bytes.hash (plainBytes packet)

end Packet

end Encapsulation
