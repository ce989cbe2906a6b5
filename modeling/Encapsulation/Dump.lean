import Encapsulation.Access.Packet
import Encapsulation.Builder

/-!
# How packets and builders are built

The dump of a packet shows its fields, its payload, and of the things it remembers the length and
the hash. Dumping computes nothing, so it shows what was computed before.
-/
namespace Encapsulation

open Text (record openRecord tuple orNone member byteList flag quoted)

/-- How a kind is built. -/
def Kind.dump (kind : Kind) : String :=
  record "PacketKind"
    [member "name" (quoted kind.name),
      member "parent" (orNone (kind.parent?.map fun parent => quoted parent.name))]

/-- What an object remembers of its length and its hash. -/
def Object.dumpCells (memory : Memory) (title : String) (object : Object) : String :=
  let length : Option Nat := memory.bank.get? (Cell.mk object .length)
  let hash : Option Int32 := memory.bank.get? (Cell.mk object .hash)
  openRecord title
    [member "length" (orNone (length.map toString)),
      member "hash_code" (orNone (hash.map fun hash => toString hash.toInt))]

/-- How a header is built, and what it remembers. -/
def Header.dump (memory : Memory) (object : Object) (header : Header) : String :=
  let cells := object.dumpCells memory "HeaderCache"
  match header with
  | .ethernet header =>
    record "EthernetHeader"
      [member "destination" header.destination.dump, member "source" header.source.dump,
        member "ethertype" header.etherType.dump,
        member "type_or_length" (toString header.typeOrLength.toNat), member "cache" cells]
  | .llcSnap header =>
    record "LlcSnapHeader"
      [member "dsap" header.destination.dump, member "ssap" header.source.dump,
        member "control" header.control.dump, member "oui" header.oui.dump,
        member "protocol_id" header.protocol.dump, member "cache" cells]
  | .udp header =>
    record "UdpHeader"
      [member "src_port" header.source.dump, member "dst_port" header.destination.dump,
        member "length" (toString header.length.toNat),
        member "checksum" (toString header.checksum.toNat), member "cache" cells]
  | .custom header =>
    tuple (if header.text.isSome then "TextHeader" else "PlainHeader") [header.kind.dump, cells]

/-- How a layer of a packet is built, given the objects of packet and header and the dump of the
payload. -/
def Layer.dump (memory : Memory) (object header : Object) (layer : Layer)
    (payload : Option String) : String :=
  let cells := object.dumpCells memory "PacketCache"
  let inside := orNone payload
  match layer with
  | .ethernet fields pad =>
    record "EthernetPacket"
      [member "header" ((Header.ethernet fields).dump memory header), member "payload" inside,
        member "pad" (byteList pad), member "cache" cells]
  | .llcSnap fields =>
    record "LlcSnapPacket"
      [member "header" ((Header.llcSnap fields).dump memory header), member "payload" inside,
        member "cache" cells]
  | .udp fields =>
    record "UdpPacket"
      [member "header" ((Header.udp fields).dump memory header), member "payload" inside,
        member "cache" cells]
  | .custom fields =>
    tuple (if fields.overrides then "OverridePacket" else "CustomPacket")
      [fields.kind.dump,
        orNone (fields.header.map fun own => (Header.custom own).dump memory header),
        inside, cells]

/-- How a packet of a numbered chain is built, and what its layers remember. -/
def Packet.dump (memory : Memory) (chain : Nat) : Packet → String
  | .unknown data =>
    record "UnknownPacket"
      [member "data" (byteList data),
        member "cache" ((Object.packet chain 1).dumpCells memory "PacketCache")]
  | .bare layer => layer.dump memory (.packet chain 1) (.header chain 1) none
  | .wrap layer payload =>
    let depth := payload.depth + 1
    layer.dump memory (.packet chain depth) (.header chain depth)
      (some (Packet.dump memory chain payload))

/-- How a draft is built, given the dump of the payload. -/
def Draft.dump (draft : Draft) (payload : Option String) : String :=
  let inside := orNone payload
  match draft with
  | .ethernet draft =>
    record "EthernetBuilder"
      [member "destination" draft.destination.dump, member "source" draft.source.dump,
        member "ethertype" draft.etherType.dump, member "payload" inside,
        member "pad" (byteList draft.pad), member "pad_at_build" (flag draft.padAtBuild)]
  | .llcSnap header =>
    record "LlcSnapBuilder"
      [member "dsap" header.destination.dump, member "ssap" header.source.dump,
        member "control" header.control.dump, member "oui" header.oui.dump,
        member "protocol_id" header.protocol.dump, member "payload" inside]
  | .udp draft =>
    record "UdpBuilder"
      [member "src_port" draft.source.dump, member "dst_port" draft.destination.dump,
        member "length" (toString draft.length.toNat),
        member "checksum" (toString draft.checksum.toNat),
        member "correct_length_at_build" (flag draft.correctLength), member "payload" inside]
  | .custom layer => tuple "CustomBuilder" [layer.kind.dump, inside]

/-- How a builder is built. -/
def Builder.dump : Builder → String
  | .unknown data => record "UnknownBuilder" [member "data" (byteList data)]
  | .bare draft => draft.dump none
  | .wrap draft payload => draft.dump (some (Builder.dump payload))

/-- How a place in a walk is built, given its name and how a chain is dumped. -/
def Cursor.dump {α : Type} (name : String) (dumpChain : Chain α → String)
    (cursor : Cursor α) : String :=
  record name [member "next" (orNone (cursor.upcoming.map dumpChain))]

end Encapsulation
