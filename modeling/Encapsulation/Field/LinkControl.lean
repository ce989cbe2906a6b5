import Encapsulation.Bytes.Hex
import Encapsulation.Text.Record

/-!
# Logical link control and subnetwork access

The fields of an LLC header, which are two service access points and a control byte, and of the
SNAP header after it, which are a three-byte organisation identifier and a two-byte protocol
identifier within that organisation.
-/
namespace Encapsulation

/-- A service access point. -/
inductive AccessPoint where
  /-- Subnetwork access protocol. -/
  | snap
  /-- Spanning tree. -/
  | stp
  /-- Name service for local networks. -/
  | netBios
  /-- An access point known by its code only. -/
  | custom (code : UInt8)
deriving DecidableEq

namespace AccessPoint

/-- The code of an access point. -/
def code : AccessPoint → UInt8
  | snap => 0xaa
  | stp => 0x42
  | netBios => 0xf0
  | custom code => code

/-- How an access point is built. -/
def dump : AccessPoint → String
  | snap => "SNAP"
  | stp => "STP"
  | netBios => "NetBIOS"
  | custom code => Text.tuple "Custom" [toString code.toNat]

end AccessPoint

/-- The control field. -/
inductive Control where
  /-- A datagram without a sequence number. -/
  | unnumberedInformation
  /-- A control field known by its code only. -/
  | custom (code : UInt8)
deriving DecidableEq

namespace Control

/-- The code of a control field. -/
def code : Control → UInt8
  | unnumberedInformation => 0x03
  | custom code => code

/-- How a control field is built. -/
def dump : Control → String
  | unnumberedInformation => "UnnumberedInformation"
  | custom code => Text.tuple "Custom" [toString code.toNat]

end Control

/-- The identifier of the organisation that gives out protocol identifiers. -/
structure Oui where
  /-- The three bytes in wire order. -/
  octets : Vector UInt8 3
deriving DecidableEq

namespace Oui

/-- The organisation of the neighbour discovery protocols. -/
def cisco : Oui := ⟨#v[0x00, 0x00, 0x0c]⟩

/-- The identifier under which protocol identifiers are Ethernet types. -/
def rfc1042 : Oui := ⟨#v[0x00, 0x00, 0x00]⟩

/-- The bytes of an identifier. -/
def bytes (oui : Oui) : Bytes := oui.octets.toList

/-- The identifier made of three bytes, if there are three. -/
def ofBytes? (bytes : Bytes) : Option Oui :=
  if h : bytes.toArray.size = 3 then some ⟨bytes.toArray, h⟩ else none

/-- An organisation identifier takes three bytes. -/
@[simp]
theorem length_bytes (oui : Oui) : oui.bytes.length = 3 := by
  simp [bytes]

/-- The identifier as text. -/
def display (oui : Oui) : String := Bytes.toHex ":" oui.bytes

/-- How an identifier is built. -/
def dump (oui : Oui) : String := Text.tuple "Oui" [Text.byteList oui.bytes]

end Oui

/-- The identifier of a protocol within an organisation. -/
structure ProtocolId where
  /-- The number on the wire. -/
  code : UInt16
deriving DecidableEq

namespace ProtocolId

/-- Discovery of neighbours. -/
def cdp : ProtocolId := ⟨0x2000⟩

/-- Agreement on virtual networks. -/
def vtp : ProtocolId := ⟨0x2003⟩

/-- Agreement on trunks. -/
def dtp : ProtocolId := ⟨0x2004⟩

/-- Detection of links that carry one direction only. -/
def udld : ProtocolId := ⟨0x0111⟩

/-- How a protocol identifier is built. -/
def dump (protocol : ProtocolId) : String :=
  Text.tuple "SnapProtocolId" [toString protocol.code.toNat]

end ProtocolId

end Encapsulation
