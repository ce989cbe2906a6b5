import Encapsulation.Chain

/-!
# Packets

A packet is a finished chain of layers. It never changes; what is derived from it, and remembered,
is kept apart from it.
-/
namespace Encapsulation

/-- A finished chain of layers. -/
abbrev Packet := Chain Layer

namespace Packet

/-- The header of the outermost layer. -/
def header? (packet : Packet) : Option Header := packet.layer?.bind Layer.header?

/-- The bytes after the payload of an Ethernet frame; no other layer has such a place. -/
def pad? (packet : Packet) : Option Bytes :=
  match packet.layer? with
  | some (.ethernet _ pad) => some pad
  | _ => none

end Packet

end Encapsulation
