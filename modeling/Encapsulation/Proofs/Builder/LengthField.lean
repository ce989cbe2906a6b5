import Encapsulation.Proofs.Builder.Wire
import Encapsulation.Proofs.Packet.Position

/-!
# Length fields

The length field of a datagram and, with LLC, that of a frame are worked out from the data inside
when the packet is built. As long as the number fits the field, the field delimits that data in the
bytes of the whole packet: it does not count the pads, neither the layer's own nor those around it.
-/
namespace Encapsulation

/-- The bytes inside the outermost layer of a packet; there are none without a payload. -/
def Packet.inside (packet : Packet) : Bytes := (packet.payload?.map plainBytes).getD []

namespace Draft

/-- The layer made of a draft of the library is one of the library's own. -/
theorem isLibrary_plainFinish {draft : Draft} (library : draft.sort.isLibrary = true)
    (payloadLength : Nat) : (draft.plainFinish payloadLength).sort.isLibrary = true := by
  cases draft with
  | ethernet draft => rfl
  | llcSnap header => rfl
  | udp draft => rfl
  | custom layer => cases library

/-- The bytes of a datagram that works out its length, in parts. -/
theorem wire_corrected {draft : UdpDraft} (corrected : draft.correctLength = true)
    (inside : Bytes) :
    wire (.udp draft) inside =
      (Bytes.bigEndian draft.source.number ++ Bytes.bigEndian draft.destination.number) ++
        Bytes.bigEndian (UInt16.ofNat (8 + inside.length)) ++
        (Bytes.bigEndian draft.checksum ++ inside) := by
  rw [wire_udp, if_pos corrected, UdpHeader.size, List.append_assoc _ (Bytes.bigEndian _) inside]

/-- The bytes of a frame with LLC, in parts. -/
theorem wire_llc {draft : EthernetDraft} (llc : draft.etherType = .llc) (inside : Bytes) :
    wire (.ethernet draft) inside = (draft.destination.bytes ++ draft.source.bytes) ++
      Bytes.bigEndian (UInt16.ofNat inside.length) ++ inside ++ draft.padFor inside.length := by
  rw [wire_ethernet, typeOrLengthFor_eq, if_pos llc]

end Draft

namespace Builder

variable {builder part : Builder} {position : Nat}

/-- The layers of the packet made of a builder are made of the layers of the builder. -/
theorem walk_plainBuild (builder : Builder) :
    builder.plainBuild.walk = builder.walk.map plainBuild := by
  induction builder with
  | unknown data => rfl
  | bare draft => rfl
  | wrap draft payload ih =>
    rw [plainBuild, Chain.walk_wrap, Chain.walk_wrap, List.map_cons, ih, plainBuild]

/-- A layer of the packet made of a builder is made of the part of the builder at its position. -/
theorem inner?_plainBuild {layer : Packet}
    (found : builder.plainBuild.inner? position = some layer) :
    ∃ part : Builder, builder.inner? position = some part ∧ part.plainBuild = layer := by
  rw [Chain.inner?, walk_plainBuild, List.getElem?_map] at found
  exact Option.map_eq_some_iff.mp found

/-- The packet made of a builder of the library is one of the library. -/
theorem Library.packet (library : builder.Library) : builder.plainBuild.Library := by
  induction builder with
  | unknown data => trivial
  | bare draft => exact Draft.isLibrary_plainFinish (library _ (Chain.mem_walk_self _)) 0
  | wrap draft payload ih =>
    exact ⟨Draft.isLibrary_plainFinish (library _ (Chain.mem_walk_self _)) _, ih library.payload⟩

/-- A layer inside a builder of the library is one of the library's own. -/
theorem Library.inner (library : builder.Library) (member : part ∈ builder.walk) : part.Library :=
  fun deeper inside => library deeper (Chain.mem_walk_trans member inside)

/-- The outermost layer made of a builder of the library, and its bytes, come from the outermost
draft and the bytes inside. -/
theorem Library.outermost {draft : Draft} (library : part.Library)
    (present : part.layer? = some draft) :
    part.plainBuild.layer? = some (draft.plainFinish part.plainBuild.inside.length) ∧
      part.plainBuild.plainBytes = draft.wire part.plainBuild.inside := by
  cases part with
  | unknown data => cases present
  | bare found =>
    obtain rfl : found = draft := Option.some.inj present
    exact ⟨rfl, library.plainBytes_eq⟩
  | wrap found payload =>
    obtain rfl : found = draft := Option.some.inj present
    have bytes : Packet.inside (plainBuild (.wrap found payload)) = wire payload :=
      library.payload.plainBytes_eq
    have length : Packet.plainLength (plainBuild payload) = (wire payload).length :=
      library.payload.plainLength_eq
    rw [bytes]
    exact ⟨congrArg (fun length => some (found.plainFinish length)) length, library.plainBytes_eq⟩

/-- The length fields of a part of a builder delimit the data inside its layer, where the layer
starts at some place of the bytes of a packet. -/
structure Delimits (part : Builder) (layer : Packet) (bytes : Bytes) (start : Nat)
    (own inside : Bytes) : Prop where
  /-- The length field of a datagram that works it out gives the bytes of the datagram. -/
  datagram : ∀ draft, part.layer? = some (.udp draft) → draft.correctLength = true →
    8 + inside.length < 65536 →
      Bytes.number (bytes.extract (start + 4) (start + 6)) = own.length ∧
        bytes.extract start (start + Bytes.number (bytes.extract (start + 4) (start + 6))) = own
  /-- The length field of a frame with LLC gives the bytes of the payload, and the pad follows. -/
  frame : ∀ draft, part.layer? = some (.ethernet draft) → draft.etherType = .llc →
    inside.length < 65536 →
      Bytes.number (bytes.extract (start + 12) (start + 14)) = inside.length ∧
        bytes.extract (start + 14) (start + 14 + inside.length) = inside ∧
        ∃ pad, layer.pad? = some pad ∧ own.length = 14 + inside.length + pad.length ∧
          bytes.extract (start + 14 + inside.length) (start + 14 + inside.length + pad.length) = pad

/-- The length fields of a part of a builder of the library delimit the data inside, wherever the
bytes of the part lie. -/
theorem Library.delimits (library : part.Library) {bytes front rest : Bytes}
    (split : bytes = front ++ part.plainBuild.plainBytes ++ rest) :
    part.Delimits part.plainBuild bytes front.length part.plainBuild.plainBytes
      part.plainBuild.inside where
  datagram := by
    intro draft present corrected fits
    obtain ⟨-, own⟩ := library.outermost present
    have parts := own.trans (Draft.wire_corrected corrected part.plainBuild.inside)
    have length : part.plainBuild.plainBytes.length = 8 + part.plainBuild.inside.length := by
      rw [parts]
      simp only [List.length_append, Bytes.length_bigEndian]
      omega
    have number : Bytes.number (bytes.extract (front.length + 4) (front.length + 6)) =
        part.plainBuild.plainBytes.length := by
      rw [length]
      apply Bytes.number_of_eq_append fits (Bytes.split_within split parts)
      simp only [List.length_append, Bytes.length_bigEndian]
    refine ⟨number, ?_⟩
    rw [number]
    exact Bytes.extract_of_eq_append split rfl rfl
  frame := by
    intro draft present llc fits
    obtain ⟨layer, own⟩ := library.outermost present
    have parts := own.trans (Draft.wire_llc llc part.plainBuild.inside)
    have addresses : (draft.destination.bytes ++ draft.source.bytes).length = 12 := by
      simp only [List.length_append, MacAddress.length_bytes]
    have header : (draft.destination.bytes ++ draft.source.bytes ++
        Bytes.bigEndian (UInt16.ofNat part.plainBuild.inside.length)).length = 14 := by
      rw [List.length_append, addresses, Bytes.length_bigEndian]
    -- Each of the three stretches is the middle one under its own bracketing of the four parts.
    have field : part.plainBuild.plainBytes =
        (draft.destination.bytes ++ draft.source.bytes) ++
          Bytes.bigEndian (UInt16.ofNat part.plainBuild.inside.length) ++
          (part.plainBuild.inside ++ draft.padFor part.plainBuild.inside.length) := by
      rw [parts, List.append_assoc _ part.plainBuild.inside]
    have trailer : part.plainBuild.plainBytes =
        ((draft.destination.bytes ++ draft.source.bytes) ++
          Bytes.bigEndian (UInt16.ofNat part.plainBuild.inside.length) ++
          part.plainBuild.inside) ++ draft.padFor part.plainBuild.inside.length ++ [] := by
      rw [parts, List.append_nil]
    have pad : part.plainBuild.pad? = some (draft.padFor part.plainBuild.inside.length) := by
      simp only [Packet.pad?, layer, Draft.plainFinish]
    refine ⟨?_, ?_, _, pad, ?_, ?_⟩
    · apply Bytes.number_of_eq_append fits (Bytes.split_within split field)
      rw [List.length_append, addresses]
    · apply Bytes.extract_of_eq_append (Bytes.split_within split parts) _ rfl
      rw [List.length_append, header]
    · rw [parts, List.length_append, List.length_append, header]
    · apply Bytes.extract_of_eq_append (Bytes.split_within split trailer) _ rfl
      rw [List.length_append, List.length_append, header, Nat.add_assoc]

end Builder

end Encapsulation
