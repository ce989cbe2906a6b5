import Encapsulation.Access.Packet

/-!
# Equality of packets

One packet is asked whether it equals another, and answers layer by layer from the outside in. Its
kind has to accept the other's kind, then the headers have to be equal, then the payloads: the
payload is asked in its own way. Raw data is compared by its bytes, and the pads of Ethernet frames
have to agree, which is looked at last. Since kinds accept kinds below them and not above, the
answer may depend on which packet is asked.
-/
namespace Encapsulation

namespace Layer

/-- Whether the headers of two packets are equal: both have none, or both have one and the first
equals the second. -/
def headersEqual (layer : Layer) (object : Object) (otherObject : Object)
    (other : Option Header) : Access Bool :=
  match layer.header?, other with
  | none, none => return true
  | some header, some otherHeader => header.equals object otherObject otherHeader
  | _, _ => return false

/-- Whether the other packet has the trailer this layer asks for: an Ethernet frame wants an
Ethernet frame with the same pad, and other layers do not mind. -/
def trailerMatches (layer : Layer) (other : Packet) : Bool :=
  match layer with
  | .ethernet _ pad => other.pad? == some pad
  | _ => true

/-- Whether a layer around some payload equals another packet, when `payloadEquals` compares the
payload with the other packet's. -/
def equalsAround (layer : Layer) (chain depth : Nat) (otherChain : Nat) (other : Packet)
    (payloadEquals : Option Packet → Access Bool) : Access Bool := do
  if Object.packet chain depth = other.object otherChain then
    return true
  if !layer.kind.accepts other.kind then
    return false
  let headers ←
    layer.headersEqual (.header chain depth) (other.headerObject otherChain) other.header?
  if !headers then
    return false
  let payloads ← payloadEquals other.payload?
  return payloads && layer.trailerMatches other

end Layer

namespace Packet

/-- Whether a packet of one chain counts as equal to a packet of another chain. -/
def equals (chain otherChain : Nat) : Packet → Packet → Access Bool
  | .unknown data, other => do
    if !Kind.unknown.accepts other.kind then
      return false
    let own ← readBytes chain (.unknown data)
    let others ← readBytes otherChain other
    return own == others
  | .bare layer, other =>
    layer.equalsAround chain 1 otherChain other fun
      | none => return true
      | some _ => return false
  | .wrap layer payload, other =>
    layer.equalsAround chain (payload.depth + 1) otherChain other fun
      | none => return false
      | some otherPayload => equals chain otherChain payload otherPayload

/-- Whether the header of a packet equals the header of another one; nothing if one of them has
no header. -/
def headerEquals? (chain : Nat) (packet : Packet) (otherChain : Nat) (other : Packet) :
    Access (Option Bool) :=
  match packet.header?, other.header? with
  | some header, some otherHeader =>
    some <$> header.equals (packet.headerObject chain) (other.headerObject otherChain) otherHeader
  | _, _ => return none

end Packet

end Encapsulation
