import Encapsulation.Builder
import Encapsulation.Field.Number

/-!
# Wire form of a builder

The bytes that a builder stands for, read off its drafts from the outside in: every field that is
worked out when a packet is built is worked out here from the number of bytes inside. The bytes of
a field are the octets that it was given or the digits of its number to the base 256, high digit
first. No packet is made and nothing is remembered. A length that a caller fixes for a layer of its
own is not looked at, so around such a layer the fields are those of its bytes and not of that
length.
-/
namespace Encapsulation

/-- The last two digits of a number to the base 256, as bytes, high digit first. -/
def Bytes.twoDigits (value : Nat) : Bytes :=
  [UInt8.ofNat (value / 256 % 256), UInt8.ofNat (value % 256)]

/-- The bytes of a draft around some bytes. -/
def Draft.wire (draft : Draft) (inside : Bytes) : Bytes :=
  match draft with
  | ethernet draft =>
    draft.destination.octets.toList ++ draft.source.octets.toList ++
      Bytes.twoDigits
        (if draft.etherType = .llc then inside.length else draft.etherType.number) ++
      inside ++
      (if draft.padAtBuild then List.replicate (46 - inside.length) 0 else draft.pad)
  | llcSnap header =>
    [UInt8.ofNat header.destination.number, UInt8.ofNat header.source.number,
      UInt8.ofNat header.control.number] ++ header.oui.octets.toList ++
      Bytes.twoDigits header.protocol.code.toNat ++ inside
  | udp draft =>
    Bytes.twoDigits draft.source.number.toNat ++ Bytes.twoDigits draft.destination.number.toNat ++
      Bytes.twoDigits
        (if draft.correctLength then 8 + inside.length else draft.length.toNat) ++
      Bytes.twoDigits draft.checksum.toNat ++ inside
  | custom layer =>
    match layer.replacement with
    | some replacement => replacement
    | none =>
      (match layer.header with
        | some header => header.fields.flatten
        | none => []) ++ inside

/-- The bytes that a builder stands for. -/
def Builder.wire : Builder → Bytes
  | .unknown data => data
  | .bare draft => draft.wire []
  | .wrap draft payload => draft.wire (wire payload)

end Encapsulation
