import Encapsulation.Access.Header
import Encapsulation.Packet

/-!
# Views of packets

Each view of a packet is computed when it is first asked for, out of the same view of its header
and of its payload. Whenever the bytes of a packet are asked for, they are compared with the length
the packet remembers, if it remembers one; an access fails if they differ in number. The length of
a composed packet is a sum that has to fit; an access that needs it fails if it does not.

The packets of one chain are told apart by their depth, so all functions here take the number of
the chain beside the packet.
-/
namespace Encapsulation

open Access (addLengths remember remembered)
open Memo.Eval (emit fail)

namespace Layer

/-- The header of a layer as an object, if there is one: a function of it, or else a value that
stands for nothing. -/
def withHeader {α : Type} (layer : Layer) (object : Object) (absent : α)
    (view : Object → Header → Access α) : Access α :=
  match layer.header? with
  | some header => view object header
  | none => pure absent

/-- The length of a packet out of its parts: those of header, payload and pad added up, unless the
layer has a length of its own. -/
def lengthAround (layer : Layer) (header : Object) (payloadLength : Access Nat)
    (ownBytes : Access Bytes) : Access Nat :=
  match layer.lengthRule with
  | .composed => do
    let before ← layer.withHeader header 0 Header.length
    let inside ← payloadLength
    addLengths (← addLengths before inside) layer.pad.length
  | .measured => do
    return (← ownBytes).length
  | .fixed count => return count.toNat

/-- The bytes of a packet out of its parts: header, payload and pad, unless the layer has its bytes
replaced. -/
def bytesAround (layer : Layer) (header : Object) (payloadBytes : Access Bytes) : Access Bytes :=
  match layer.replacement? with
  | some replacement => return replacement
  | none => do
    let before ← layer.withHeader header [] Header.readBytes
    let inside ← payloadBytes
    return before ++ inside ++ layer.pad

/-- The text of a packet out of its parts: header, payload and pad. -/
def textAround (layer : Layer) (header : Object) (payloadText : Access String) :
    Access String := do
  let before ← layer.withHeader header "" Header.text
  let inside ← payloadText
  return before ++ inside ++ layer.padText

end Layer

namespace Packet

/-- The object of a packet in a numbered chain. -/
def object (chain : Nat) (packet : Packet) : Object := .packet chain packet.depth

/-- The object of the header of a packet in a numbered chain. -/
def headerObject (chain : Nat) (packet : Packet) : Object := .header chain packet.depth

/-- The bytes of a packet, put together by an evaluation when they are first asked for, which is
then reported. If the packet remembers a length, it has to be the number of bytes. -/
def checked (object : Object) (kind : Kind) (compose : Access Bytes) : Access Bytes := do
  let built ← remember object .bytes do
    let built ← compose
    emit (.bytesBuilt object kind built.length)
    return built
  match ← remembered object .length with
  | some length =>
    if built.length = length then
      return built
    else
      fail (.mismatch kind built.length length)
  | none => return built

/-- The bytes of a packet. -/
def readBytes (chain : Nat) : Packet → Access Bytes
  | .unknown data =>
    checked (.packet chain 1) .unknown (return data)
  | .bare layer =>
    checked (.packet chain 1) layer.kind (layer.bytesAround (.header chain 1) (return []))
  | .wrap layer payload =>
    let depth := payload.depth + 1
    checked (.packet chain depth) layer.kind
      (layer.bytesAround (.header chain depth) (readBytes chain payload))

/-- The length of a packet. -/
def length (chain : Nat) : Packet → Access Nat
  | .unknown data =>
    remember (.packet chain 1) .length (return data.length)
  | .bare layer =>
    remember (.packet chain 1) .length
      (layer.lengthAround (.header chain 1) (return 0) (readBytes chain (.bare layer)))
  | .wrap layer payload =>
    let depth := payload.depth + 1
    remember (.packet chain depth) .length
      (layer.lengthAround (.header chain depth) (length chain payload)
        (readBytes chain (.wrap layer payload)))

/-- The hexadecimal form of a packet, with spaces. -/
def hex (chain : Nat) (packet : Packet) : Access String :=
  remember (object chain packet) .hex do
    return Bytes.toHex " " (← readBytes chain packet)

/-- The lines of text of raw data of some length. -/
def describeData (data : Bytes) (length : Nat) : String :=
  "[Unknown Packet (" ++ toString length ++ " bytes)]\n" ++
    "  Hex stream: " ++ Bytes.toHex " " data ++ "\n"

/-- The text of a packet. -/
def text (chain : Nat) : Packet → Access String
  | .unknown data =>
    remember (.packet chain 1) .text do
      return describeData data (← length chain (.unknown data))
  | .bare layer =>
    remember (.packet chain 1) .text (layer.textAround (.header chain 1) (return ""))
  | .wrap layer payload =>
    let depth := payload.depth + 1
    remember (.packet chain depth) .text
      (layer.textAround (.header chain depth) (text chain payload))

/-- The hash of a packet. -/
def hash (chain : Nat) (packet : Packet) : Access Int32 :=
  remember (object chain packet) .hash do
    return Bytes.hash (← readBytes chain packet)

/-- A view of a packet. -/
def read (chain : Nat) (packet : Packet) : (view : View) → Access view.Value
  | .length => length chain packet
  | .bytes => readBytes chain packet
  | .hex => hex chain packet
  | .text => text chain packet
  | .hash => hash chain packet

end Packet

end Encapsulation
