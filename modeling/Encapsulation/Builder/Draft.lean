import Encapsulation.Layer

/-!
# Drafts

A draft is a layer in the making: the fields as given so far, and what is still to be worked out
from the payload when the layer is built. Fields are set by edits, each of which sets one field;
the last edit of a field decides.
-/
namespace Encapsulation

/-- An Ethernet frame in the making. -/
structure EthernetDraft where
  /-- The station that the frame is for. -/
  destination : MacAddress
  /-- The station that sends the frame. -/
  source : MacAddress
  /-- What the payload is. -/
  etherType : EtherType
  /-- The pad to use when none is worked out. -/
  pad : Bytes
  /-- Whether a short frame is filled up with zeros when it is built. -/
  padAtBuild : Bool
deriving DecidableEq

namespace EthernetDraft

/-- A new draft: no addresses, Internet protocol, and short frames filled up. -/
def initial : EthernetDraft := ⟨.zero, .zero, .ipv4, [], true⟩

/-- The least number of bytes after the header of a frame that is filled up. -/
def leastPayload : Nat := 46

/-- One field of an Ethernet draft given a new value. -/
inductive Edit where
  /-- The station that the frame is for. -/
  | destination (address : MacAddress)
  /-- The station that sends the frame. -/
  | source (address : MacAddress)
  /-- What the payload is. -/
  | etherType (etherType : EtherType)
  /-- The pad to use when none is worked out. -/
  | pad (pad : Bytes)
  /-- Whether a short frame is filled up. -/
  | padAtBuild (enabled : Bool)

/-- The draft after an edit. -/
def edit (draft : EthernetDraft) : Edit → EthernetDraft
  | .destination address => { draft with destination := address }
  | .source address => { draft with source := address }
  | .etherType etherType => { draft with etherType := etherType }
  | .pad pad => { draft with pad := pad }
  | .padAtBuild enabled => { draft with padAtBuild := enabled }

/-- The pad of the frame around a payload of some length. -/
def padFor (draft : EthernetDraft) (payloadLength : Nat) : Bytes :=
  if draft.padAtBuild then List.replicate (leastPayload - payloadLength) 0 else draft.pad

/-- The number in the last field of the header around a payload of some length: the length cut
down to 16 bits with LLC, and the code of the type otherwise. -/
def typeOrLengthFor (draft : EthernetDraft) (payloadLength : Nat) : UInt16 :=
  match draft.etherType with
  | .llc => UInt16.ofNat payloadLength
  | other => other.code

/-- The header around a payload of some length. -/
def headerFor (draft : EthernetDraft) (payloadLength : Nat) : EthernetHeader :=
  ⟨draft.destination, draft.source, draft.etherType, draft.typeOrLengthFor payloadLength⟩

end EthernetDraft

namespace LlcSnapHeader

/-- A new header: subnetwork access on both sides, an unnumbered datagram, and no protocol. -/
def initial : LlcSnapHeader := ⟨.snap, .snap, .unnumberedInformation, .rfc1042, ⟨0⟩⟩

/-- The header of neighbour discovery. -/
def cdp : LlcSnapHeader := { initial with oui := .cisco, protocol := .cdp }

/-- One field of an LLC and SNAP header given a new value. -/
inductive Edit where
  /-- The access point that the packet is for. -/
  | destination (point : AccessPoint)
  /-- The access point that sends the packet. -/
  | source (point : AccessPoint)
  /-- The control field. -/
  | control (control : Control)
  /-- The organisation that gives out the protocol identifier. -/
  | oui (oui : Oui)
  /-- The protocol of the payload. -/
  | protocol (protocol : ProtocolId)

/-- The header after an edit. -/
def edit (header : LlcSnapHeader) : Edit → LlcSnapHeader
  | .destination point => { header with destination := point }
  | .source point => { header with source := point }
  | .control control => { header with control := control }
  | .oui oui => { header with oui := oui }
  | .protocol protocol => { header with protocol := protocol }

end LlcSnapHeader

/-- A UDP datagram in the making. -/
structure UdpDraft where
  /-- The port that sends the datagram. -/
  source : Port
  /-- The port that the datagram is for. -/
  destination : Port
  /-- The length field to use when none is worked out. -/
  length : UInt16
  /-- The checksum field. -/
  checksum : UInt16
  /-- Whether the length field is worked out when the datagram is built. -/
  correctLength : Bool
deriving DecidableEq

namespace UdpDraft

/-- A new draft: every number zero, and the length field to be worked out. -/
def initial : UdpDraft := ⟨⟨0⟩, ⟨0⟩, 0, 0, true⟩

/-- One field of a UDP draft given a new value. -/
inductive Edit where
  /-- The port that sends the datagram. -/
  | source (port : Port)
  /-- The port that the datagram is for. -/
  | destination (port : Port)
  /-- The length field to use when none is worked out. -/
  | length (length : UInt16)
  /-- The checksum field. -/
  | checksum (checksum : UInt16)
  /-- Whether the length field is worked out. -/
  | correctLength (enabled : Bool)

/-- The draft after an edit. -/
def edit (draft : UdpDraft) : Edit → UdpDraft
  | .source port => { draft with source := port }
  | .destination port => { draft with destination := port }
  | .length length => { draft with length := length }
  | .checksum checksum => { draft with checksum := checksum }
  | .correctLength enabled => { draft with correctLength := enabled }

/-- The header with a given length field. -/
def headerWith (draft : UdpDraft) (length : UInt16) : UdpHeader :=
  ⟨draft.source, draft.destination, length, draft.checksum⟩

end UdpDraft

/-- A layer in the making. -/
inductive Draft where
  /-- An Ethernet frame in the making. -/
  | ethernet (draft : EthernetDraft)
  /-- A packet with an LLC and SNAP header, of which nothing is worked out. -/
  | llcSnap (header : LlcSnapHeader)
  /-- A UDP datagram in the making. -/
  | udp (draft : UdpDraft)
  /-- A layer that a caller defines, of which nothing is worked out. -/
  | custom (layer : CustomLayer)

/-- One change of a draft, or of raw data. -/
inductive Edit where
  /-- A change of an Ethernet draft. -/
  | ethernet (change : EthernetDraft.Edit)
  /-- A change of an LLC and SNAP header. -/
  | llcSnap (change : LlcSnapHeader.Edit)
  /-- A change of a UDP draft. -/
  | udp (change : UdpDraft.Edit)
  /-- New raw data. -/
  | data (data : Bytes)

namespace Draft

/-- The kind of the layer that a draft becomes. -/
def kind : Draft → Kind
  | ethernet _ => .ethernet
  | llcSnap _ => .llcSnap
  | udp _ => .udp
  | custom layer => layer.kind

/-- The sort of a draft; the drafts that callers define are all of one sort. -/
def sort : Draft → LayerSort
  | ethernet _ => .ethernet
  | llcSnap _ => .llcSnap
  | udp _ => .udp
  | custom _ => .custom

instance : Layered Draft := ⟨kind, sort⟩

/-- Whether a payload can be put under a draft. -/
def takesPayload : Draft → Bool
  | custom _ => false
  | _ => true

/-- The draft after a change; a change of another protocol leaves it as it is. -/
def edit (draft : Draft) (change : Edit) : Draft :=
  match draft, change with
  | ethernet draft, .ethernet change => ethernet (draft.edit change)
  | llcSnap header, .llcSnap change => llcSnap (header.edit change)
  | udp draft, .udp change => udp (draft.edit change)
  | unchanged, _ => unchanged

end Draft

/-- The draft that a finished layer gives back: its fields as they are, with nothing left to be
worked out except the length of the payload in an Ethernet header with LLC. -/
def Layer.reopen : Layer → Draft
  | ethernet header pad =>
    .ethernet ⟨header.destination, header.source, header.etherType, pad, false⟩
  | llcSnap header => .llcSnap header
  | udp header => .udp ⟨header.source, header.destination, header.length, header.checksum, false⟩
  | custom layer => .custom layer

end Encapsulation
