import Encapsulation.Kind
import Encapsulation.Field.EtherType
import Encapsulation.Field.LinkControl
import Encapsulation.Field.Port

/-!
# Objects and events

Packets and headers are immutable, but each one is an object of its own: two packets with the same
layers are two objects. A chain is numbered when it is built, and its packets are told apart by
the number of layers from them inwards, so an inner packet is the same object whichever layer it
is reached from. A copy of a header is a new object.

Events report what happens while objects are built and used.
-/
namespace Encapsulation

/-- An object that remembers what is derived from it. -/
inductive Object where
  /-- The packet with so many layers, itself included, in a numbered chain. -/
  | packet (chain depth : Nat)
  /-- The header of the packet with so many layers in a numbered chain. -/
  | header (chain depth : Nat)
  /-- A numbered copy of a header. -/
  | copy (serial : Nat)
deriving DecidableEq

namespace Object

/-- A number for packets, one for headers and one for copies. -/
def sort : Object → Nat
  | packet _ _ => 0
  | header _ _ => 1
  | copy _ => 2

/-- The number of the chain, or the number of a copy. -/
def number : Object → Nat
  | packet chain _ => chain
  | header chain _ => chain
  | copy serial => serial

/-- The number of layers from the object inwards; a copy stands alone. -/
def depth : Object → Nat
  | packet _ depth => depth
  | header _ depth => depth
  | copy _ => 0

/-- Objects are told apart by their numbers. -/
theorem eq_of_numbers {left right : Object} (sort : left.sort = right.sort)
    (number : left.number = right.number) (depth : left.depth = right.depth) : left = right := by
  cases left <;> cases right <;> simp_all [Object.sort, Object.number, Object.depth]

end Object

/-- A report of something that happened. -/
inductive Event where
  /-- The bytes of an object were put together. -/
  | bytesBuilt (object : Object) (kind : Kind) (count : Nat)
  /-- An Ethernet frame was built around a payload. -/
  | frameBuilt (etherType : EtherType) (payloadLength padLength : Nat)
  /-- A UDP datagram was built. -/
  | datagramBuilt (source destination : Port) (length : UInt16)
  /-- A packet with an LLC and SNAP header is being built. -/
  | snapBuilt (protocol : ProtocolId)
  /-- A builder refused a payload. -/
  | payloadRejected (kind payload : Kind)

/-- How much an event matters. -/
inductive Level where
  /-- Of interest only when following every step. -/
  | trace
  /-- Of interest when looking for a fault. -/
  | debug
deriving DecidableEq

namespace Level

/-- The name of a level. -/
def display : Level → String
  | trace => "TRACE"
  | debug => "DEBUG"

end Level

namespace Event

/-- How much an event matters. -/
def level : Event → Level
  | payloadRejected _ _ => .debug
  | _ => .trace

/-- The wording of an event. -/
def message : Event → String
  | bytesBuilt (.packet _ _) _ _ => "packet raw data built"
  | bytesBuilt _ _ _ => "header raw data built"
  | frameBuilt _ _ _ => "ethernet frame built"
  | datagramBuilt _ _ _ => "udp datagram built"
  | snapBuilt _ => "llc/snap packet built"
  | payloadRejected _ _ => "payload builder rejected"

/-- The value of a named part of an event. -/
inductive Value where
  /-- A text. -/
  | text (text : String)
  /-- A number. -/
  | number (number : Nat)

/-- The named parts of an event. -/
def parts : Event → List (String × Value)
  | bytesBuilt _ kind count => [("kind", .text kind.name), ("length", .number count)]
  | frameBuilt etherType payloadLength padLength =>
    [("ethertype", .text etherType.display), ("payload_length", .number payloadLength),
      ("pad", .number padLength)]
  | datagramBuilt source destination length =>
    [("src_port", .number source.number.toNat), ("dst_port", .number destination.number.toNat),
      ("length", .number length.toNat)]
  | snapBuilt protocol => [("protocol_id", .number protocol.code.toNat)]
  | payloadRejected kind payload => [("kind", .text kind.name), ("payload", .text payload.name)]

end Event

end Encapsulation
