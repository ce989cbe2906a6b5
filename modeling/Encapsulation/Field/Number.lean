import Encapsulation.Field.EtherType
import Encapsulation.Field.LinkControl
import Encapsulation.Field.MacAddress

/-!
# Numbers of fields

The number that each field of a header stands for, as the protocols assign it. The octets of
addresses and organisation identifiers are digits to the base 256, the first one highest. The
numbers are worked out from the fields themselves and not from the bytes that a field is written
as, so that they can be held against those bytes.
-/
namespace Encapsulation

/-- The number of a hardware address. -/
def MacAddress.number (address : MacAddress) : Nat :=
  address.octets[0].toNat * 0x10000000000 + address.octets[1].toNat * 0x100000000 +
    address.octets[2].toNat * 0x1000000 + address.octets[3].toNat * 0x10000 +
    address.octets[4].toNat * 0x100 + address.octets[5].toNat

/-- The number of an organisation identifier. -/
def Oui.number (oui : Oui) : Nat :=
  oui.octets[0].toNat * 0x10000 + oui.octets[1].toNat * 0x100 + oui.octets[2].toNat

/-- The number assigned to an Ethernet type; none is assigned to LLC, which stands as zero. -/
def EtherType.number : EtherType → Nat
  | ipv4 => 0x0800
  | arp => 0x0806
  | vlan => 0x8100
  | ipv6 => 0x86dd
  | lldp => 0x88cc
  | dot1x => 0x888e
  | llc => 0
  | custom code => code.toNat

/-- The number assigned to a service access point. -/
def AccessPoint.number : AccessPoint → Nat
  | snap => 0xaa
  | stp => 0x42
  | netBios => 0xf0
  | custom code => code.toNat

/-- The number assigned to a control field. -/
def Control.number : Control → Nat
  | unnumberedInformation => 0x03
  | custom code => code.toNat

end Encapsulation
