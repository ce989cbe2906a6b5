import Encapsulation.Text.Record

/-!
# UDP ports

A port is a 16-bit number. A few well-known ports are shown with the name of their service.
-/
namespace Encapsulation

/-- A UDP port. -/
structure Port where
  /-- The port number. -/
  number : UInt16
deriving DecidableEq

namespace Port

/-- Name resolution. -/
def dns : Port := ⟨53⟩

/-- Address assignment, on the side of the server. -/
def dhcpServer : Port := ⟨67⟩

/-- Address assignment, on the side of the client. -/
def dhcpClient : Port := ⟨68⟩

/-- Network time. -/
def ntp : Port := ⟨123⟩

/-- Network management. -/
def snmp : Port := ⟨161⟩

/-- The service of a well-known port. -/
def service? (port : Port) : Option String :=
  if port = dns then some "DNS"
  else if port = dhcpServer then some "DHCP Server"
  else if port = dhcpClient then some "DHCP Client"
  else if port = ntp then some "NTP"
  else if port = snmp then some "SNMP"
  else none

/-- The port as text: its number, followed by the service of a well-known port in parentheses. -/
def display (port : Port) : String :=
  match port.service? with
  | some service => toString port.number.toNat ++ " (" ++ service ++ ")"
  | none => toString port.number.toNat

/-- How a port is built. -/
def dump (port : Port) : String := Text.tuple "UdpPort" [toString port.number.toNat]

end Port

end Encapsulation
