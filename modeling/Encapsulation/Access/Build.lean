import Encapsulation.Access.Packet
import Encapsulation.Builder

/-!
# Building packets

A builder makes a new packet each time it is asked, under a new chain number, and stays as it is.
The payload is built before what depends on its length: the header and the pad of an Ethernet frame
and the length field of a UDP datagram. Asking for that length fills cells of the new payload; no
other cell is touched. A build fails only if a length that it needs does not fit.
-/
namespace Encapsulation

open Access (addLengths)
open Memo.Eval (emit)

namespace Draft

/-- What is reported before the payload is built. -/
def announce : Draft → Access Unit
  | llcSnap header => emit (.snapBuilt header.protocol)
  | _ => return ()

/-- The layer made of a draft around a payload of some length, which is asked for only where the
layer depends on it. -/
def finish (draft : Draft) (payloadLength : Access Nat) : Access Layer :=
  match draft with
  | ethernet draft => do
    let length ← payloadLength
    let pad := draft.padFor length
    emit (.frameBuilt draft.etherType length pad.length)
    return .ethernet (draft.headerFor length) pad
  | llcSnap header => return .llcSnap header
  | udp draft => do
    let length ←
      if draft.correctLength then
        UInt16.ofNat <$> addLengths UdpHeader.size (← payloadLength)
      else
        pure draft.length
    emit (.datagramBuilt draft.source draft.destination length)
    return .udp (draft.headerWith length)
  | custom layer => return .custom layer

end Draft

/-- A new packet out of a builder, under a chain number that is not in use. -/
def Builder.build (chain : Nat) : Builder → Access Packet
  | .unknown data => return .unknown data
  | .bare draft => do
    draft.announce
    return .bare (← draft.finish (return 0))
  | .wrap draft payload => do
    draft.announce
    let inside ← build chain payload
    return .wrap (← draft.finish (Packet.length chain inside)) inside

end Encapsulation
