import Encapsulation.Header

/-!
# Layers

A layer is what one protocol adds around a payload: a header before it and, for Ethernet, a pad
after it. The layers of the library compose their length and their bytes from header, payload and
pad. A layer that a caller defines may go without a header, may have its bytes replaced as a whole
and may have a length of its own, which then need not agree with its bytes.
-/
namespace Encapsulation

/-- How the length of a layer is found. -/
inductive LengthRule where
  /-- The lengths of header, payload and pad, added up. -/
  | composed
  /-- The number of bytes the layer has. -/
  | measured
  /-- A given number of 64 bits. -/
  | fixed (count : UInt64)
deriving DecidableEq

/-- A layer that a caller defines. -/
structure CustomLayer where
  /-- The kind of the layer. -/
  kind : Kind
  /-- The header, if the layer has one. -/
  header : Option CustomHeader
  /-- Bytes that stand in place of those of header and payload. -/
  replacement : Option Bytes
  /-- How the length is found. -/
  lengthRule : LengthRule

/-- Whether a layer that a caller defines departs from the composition of its parts. -/
def CustomLayer.overrides (layer : CustomLayer) : Bool :=
  layer.replacement.isSome || layer.lengthRule != .composed

/-- The layers of a packet that have a place for a payload. -/
inductive Layer where
  /-- An Ethernet frame with its header and the pad after the payload. -/
  | ethernet (header : EthernetHeader) (pad : Bytes)
  /-- A packet with an LLC and SNAP header. -/
  | llcSnap (header : LlcSnapHeader)
  /-- A UDP datagram. -/
  | udp (header : UdpHeader)
  /-- A layer that a caller defines. -/
  | custom (layer : CustomLayer)

namespace Layer

/-- The kind of a layer. -/
def kind : Layer → Kind
  | ethernet _ _ => .ethernet
  | llcSnap _ => .llcSnap
  | udp _ => .udp
  | custom layer => layer.kind

/-- The header of a layer. -/
def header? : Layer → Option Header
  | ethernet header _ => some (.ethernet header)
  | llcSnap header => some (.llcSnap header)
  | udp header => some (.udp header)
  | custom layer => layer.header.map .custom

/-- The bytes after the payload. -/
def pad : Layer → Bytes
  | ethernet _ pad => pad
  | _ => []

/-- Bytes that stand in place of those of header, payload and pad. -/
def replacement? : Layer → Option Bytes
  | custom layer => layer.replacement
  | _ => none

/-- How the length of a layer is found. -/
def lengthRule : Layer → LengthRule
  | custom layer => layer.lengthRule
  | _ => .composed

/-- The section of text for the bytes after the payload, which is empty if there are none. -/
def padText (layer : Layer) : String :=
  if layer.pad.isEmpty then ""
  else
    "[Ethernet Pad (" ++ toString layer.pad.length ++ " bytes)]\n" ++
      "  Hex stream: " ++ Bytes.toHex " " layer.pad ++ "\n"

end Layer

/-- What sort of layer stands at some place of a chain, whatever kind it claims to be of. -/
inductive LayerSort where
  /-- Raw data. -/
  | unknown
  /-- An Ethernet frame. -/
  | ethernet
  /-- A packet with an LLC and SNAP header. -/
  | llcSnap
  /-- A UDP datagram. -/
  | udp
  /-- A layer defined by a caller and composed of its parts. -/
  | custom
  /-- A layer defined by a caller that departs from the composition of its parts. -/
  | overriding
deriving DecidableEq

/-- Whether a sort of layer is one of the library's own. -/
def LayerSort.isLibrary : LayerSort → Bool
  | unknown | ethernet | llcSnap | udp => true
  | custom | overriding => false

/-- The sort of a layer of a packet. -/
def Layer.sort : Layer → LayerSort
  | ethernet _ _ => .ethernet
  | llcSnap _ => .llcSnap
  | udp _ => .udp
  | custom layer => if layer.overrides then .overriding else .custom

/-- What chains are made of: things that are of a kind and of a sort. -/
class Layered (α : Type) where
  /-- The kind of a layer. -/
  kind : α → Kind
  /-- The sort of a layer. -/
  sort : α → LayerSort

instance : Layered Layer := ⟨Layer.kind, Layer.sort⟩

end Encapsulation
