import Encapsulation.Bytes.Hex
import Encapsulation.Text.Record

/-!
# Ethernet types

What the payload of an Ethernet frame is. Each type has a 16-bit code; with LLC the field carries
the length of the payload instead, so its own code is zero. A code that a caller gives is kept
apart from the named type with the same code.
-/
namespace Encapsulation

/-- The type of an Ethernet payload. -/
inductive EtherType where
  /-- Internet protocol, version 4. -/
  | ipv4
  /-- Address resolution. -/
  | arp
  /-- A frame with a virtual network tag. -/
  | vlan
  /-- Internet protocol, version 6. -/
  | ipv6
  /-- Link layer discovery. -/
  | lldp
  /-- Port-based access control. -/
  | dot1x
  /-- Logical link control: the field carries the length of the payload. -/
  | llc
  /-- A type known by its code only. -/
  | custom (code : UInt16)
deriving DecidableEq

namespace EtherType

/-- The code of a type, which is zero for the type whose field carries a length. -/
def code : EtherType → UInt16
  | ipv4 => 0x0800
  | arp => 0x0806
  | vlan => 0x8100
  | ipv6 => 0x86dd
  | lldp => 0x88cc
  | dot1x => 0x888e
  | llc => 0
  | custom code => code

/-- The type as text: its name, or its code in upper-case hexadecimal. -/
def display : EtherType → String
  | ipv4 => "IPv4"
  | arp => "ARP"
  | vlan => "VLAN"
  | ipv6 => "IPv6"
  | lldp => "LLDP"
  | dot1x => "802.1X"
  | llc => "LLC"
  | custom code => "0x" ++ Bytes.upperHex "" (Bytes.bigEndian code)

/-- How a type is built. -/
def dump : EtherType → String
  | ipv4 => "IPv4"
  | arp => "ARP"
  | vlan => "VLAN"
  | ipv6 => "IPv6"
  | lldp => "LLDP"
  | dot1x => "Dot1X"
  | llc => "LLC"
  | custom code => Text.tuple "Custom" [toString code.toNat]

end EtherType

end Encapsulation
