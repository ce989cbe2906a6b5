import Encapsulation.Field.EtherType
import Encapsulation.Field.LinkControl
import Encapsulation.Field.MacAddress
import Encapsulation.Field.Port
import Encapsulation.Kind

/-!
# Headers

A header is a row of fields in wire order; its bytes are the fields one after another. The library
has three headers, and a caller can define others by giving a kind and the fields. The headers of
the library describe themselves in lines of text, which begin with their length in bytes.
-/
namespace Encapsulation

/-- The header of an Ethernet frame. -/
structure EthernetHeader where
  /-- The station that the frame is for. -/
  destination : MacAddress
  /-- The station that sends the frame. -/
  source : MacAddress
  /-- What the payload is. -/
  etherType : EtherType
  /-- The number on the wire: the code of the type, or the length of the payload with LLC. -/
  typeOrLength : UInt16
deriving DecidableEq

namespace EthernetHeader

/-- The fields in wire order. -/
def fields (header : EthernetHeader) : List Bytes :=
  [header.destination.bytes, header.source.bytes, Bytes.bigEndian header.typeOrLength]

/-- The line of text for the last field. -/
def typeLine (header : EthernetHeader) : String :=
  match header.etherType with
  | .llc => "  Length: " ++ toString header.typeOrLength.toNat ++ " (LLC)\n"
  | other =>
    "  Type: 0x" ++ Bytes.hexWord header.typeOrLength ++ " (" ++ other.display ++ ")\n"

/-- The lines of text of a header of some length. -/
def describe (header : EthernetHeader) (length : Nat) : String :=
  "[Ethernet Header (" ++ toString length ++ " bytes)]\n" ++
    "  Destination address: " ++ header.destination.display ++ "\n" ++
    "  Source address: " ++ header.source.display ++ "\n" ++ header.typeLine

end EthernetHeader

/-- The header made of an LLC and a SNAP part. -/
structure LlcSnapHeader where
  /-- The access point that the packet is for. -/
  destination : AccessPoint
  /-- The access point that sends the packet. -/
  source : AccessPoint
  /-- The control field. -/
  control : Control
  /-- The organisation that gives out the protocol identifier. -/
  oui : Oui
  /-- The protocol of the payload. -/
  protocol : ProtocolId
deriving DecidableEq

namespace LlcSnapHeader

/-- The fields in wire order. -/
def fields (header : LlcSnapHeader) : List Bytes :=
  [[header.destination.code], [header.source.code], [header.control.code], header.oui.bytes,
    Bytes.bigEndian header.protocol.code]

/-- The lines of text of a header of some length. -/
def describe (header : LlcSnapHeader) (length : Nat) : String :=
  "[LLC/SNAP Header (" ++ toString length ++ " bytes)]\n" ++
    "  DSAP: 0x" ++ Bytes.toHex "" [header.destination.code] ++ "\n" ++
    "  SSAP: 0x" ++ Bytes.toHex "" [header.source.code] ++ "\n" ++
    "  Control: 0x" ++ Bytes.toHex "" [header.control.code] ++ "\n" ++
    "  OUI: " ++ header.oui.display ++ "\n" ++
    "  Protocol ID: 0x" ++ Bytes.hexWord header.protocol.code ++ "\n"

end LlcSnapHeader

/-- The header of a UDP datagram. -/
structure UdpHeader where
  /-- The port that sends the datagram. -/
  source : Port
  /-- The port that the datagram is for. -/
  destination : Port
  /-- The length field, which counts header and data. -/
  length : UInt16
  /-- The checksum field, as given. -/
  checksum : UInt16
deriving DecidableEq

namespace UdpHeader

/-- The number of bytes of a UDP header. -/
def size : Nat := 8

/-- The fields in wire order. -/
def fields (header : UdpHeader) : List Bytes :=
  [Bytes.bigEndian header.source.number, Bytes.bigEndian header.destination.number,
    Bytes.bigEndian header.length, Bytes.bigEndian header.checksum]

/-- The lines of text of a header of some length. -/
def describe (header : UdpHeader) (length : Nat) : String :=
  "[UDP Header (" ++ toString length ++ " bytes)]\n" ++
    "  Source port: " ++ header.source.display ++ "\n" ++
    "  Destination port: " ++ header.destination.display ++ "\n" ++
    "  Length: " ++ toString header.length.toNat ++ "\n" ++
    "  Checksum: 0x" ++ Bytes.hexWord header.checksum ++ "\n"

end UdpHeader

/-- A header that a caller defines. -/
structure CustomHeader where
  /-- The kind of the header. -/
  kind : Kind
  /-- The fields in wire order. -/
  fields : List Bytes
  /-- The text of the header; without one the text is the hexadecimal form of the bytes. -/
  text : Option String

/-- A header of any kind. -/
inductive Header where
  /-- The header of an Ethernet frame. -/
  | ethernet (header : EthernetHeader)
  /-- A header made of an LLC and a SNAP part. -/
  | llcSnap (header : LlcSnapHeader)
  /-- The header of a UDP datagram. -/
  | udp (header : UdpHeader)
  /-- A header that a caller defines. -/
  | custom (header : CustomHeader)

namespace Header

/-- The kind of a header. -/
def kind : Header → Kind
  | ethernet _ => .ethernetHeader
  | llcSnap _ => .llcSnapHeader
  | udp _ => .udpHeader
  | custom header => header.kind

/-- The fields in wire order. -/
def fields : Header → List Bytes
  | ethernet header => header.fields
  | llcSnap header => header.fields
  | udp header => header.fields
  | custom header => header.fields

/-- The size of a header: the sizes of its fields added up. -/
def size (header : Header) : Nat :=
  header.fields.foldr (fun field total => field.length + total) 0

/-- The bytes of a header: its fields one after another. -/
def bytes (header : Header) : Bytes := header.fields.flatten

end Header

end Encapsulation
