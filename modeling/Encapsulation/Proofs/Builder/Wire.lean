import Encapsulation.Builder.Wire
import Encapsulation.Proofs.Access.Regular
import Encapsulation.Proofs.Field.Number

/-!
# Wire form of packets

The layers of the library put a packet together piece by piece: drafts work out fields from the
length of the payload, headers list their fields, layers put header, payload and pad one after
another. The bytes that come out are the wire form of the builder, read off from the outside in.
The wire form is given by octets and digits, so it is first brought into the words and codes that
headers write.
-/
namespace Encapsulation

/-- Every layer of a builder is one of the library's own. -/
def Builder.Library (builder : Builder) : Prop :=
  ∀ inner : Builder, inner ∈ builder.walk → inner.sort.isLibrary = true

namespace Bytes

/-- Two digits take two bytes. -/
@[simp]
theorem length_twoDigits (value : Nat) : (twoDigits value).length = 2 := rfl

/-- Two digits spell the number, less what does not fit them. -/
theorem number_twoDigits (value : Nat) : number (twoDigits value) = value % 65536 := by
  have high : (UInt8.ofNat (value / 256 % 256)).toNat = value / 256 % 256 := by
    rw [UInt8.toNat_ofNat', Nat.mod_mod]
  have low : (UInt8.ofNat (value % 256)).toNat = value % 256 := by
    rw [UInt8.toNat_ofNat', Nat.mod_mod]
  simp only [number, twoDigits, List.foldl_cons, List.foldl_nil, high, low]
  omega

/-- A number cut down to 16 bits is written as its last two digits. -/
theorem twoDigits_eq_bigEndian (value : Nat) :
    twoDigits value = bigEndian (UInt16.ofNat value) := by
  have widths : (twoDigits value).length = (bigEndian (UInt16.ofNat value)).length := rfl
  apply eq_of_number_eq widths
  rw [number_twoDigits, number_bigEndian, UInt16.toNat_ofNat']

/-- A 16-bit number is written as its two digits. -/
theorem twoDigits_toNat (word : UInt16) : twoDigits word.toNat = bigEndian word := by
  rw [twoDigits_eq_bigEndian, UInt16.ofNat_toNat]

end Bytes

namespace Draft

/-- The last field of an Ethernet header, where there are two cases. -/
theorem typeOrLengthFor_eq (draft : EthernetDraft) (payloadLength : Nat) :
    draft.typeOrLengthFor payloadLength =
      if draft.etherType = .llc then UInt16.ofNat payloadLength else draft.etherType.code := by
  unfold EthernetDraft.typeOrLengthFor
  cases kind : draft.etherType <;> simp

/-- The wire form of a frame, in the words that its header writes. -/
theorem wire_ethernet (draft : EthernetDraft) (inside : Bytes) :
    wire (.ethernet draft) inside = draft.destination.bytes ++ draft.source.bytes ++
      Bytes.bigEndian (draft.typeOrLengthFor inside.length) ++ inside ++
      draft.padFor inside.length := by
  have field : Bytes.twoDigits
      (if draft.etherType = .llc then inside.length else draft.etherType.number) =
        Bytes.bigEndian (draft.typeOrLengthFor inside.length) := by
    rw [typeOrLengthFor_eq]
    split
    · exact Bytes.twoDigits_eq_bigEndian inside.length
    · rw [← EtherType.toNat_code, Bytes.twoDigits_toNat]
  rw [wire, field]
  rfl

/-- The wire form of an LLC and SNAP packet, in the codes that its header writes. -/
theorem wire_llcSnap (header : LlcSnapHeader) (inside : Bytes) :
    wire (.llcSnap header) inside =
      [header.destination.code, header.source.code, header.control.code] ++ header.oui.bytes ++
        Bytes.bigEndian header.protocol.code ++ inside := by
  rw [wire, AccessPoint.ofNat_number, AccessPoint.ofNat_number, Control.ofNat_number,
    Bytes.twoDigits_toNat]
  rfl

/-- The wire form of a datagram, in the words that its header writes. -/
theorem wire_udp (draft : UdpDraft) (inside : Bytes) :
    wire (.udp draft) inside =
      Bytes.bigEndian draft.source.number ++ Bytes.bigEndian draft.destination.number ++
        Bytes.bigEndian
          (if draft.correctLength then UInt16.ofNat (UdpHeader.size + inside.length)
          else draft.length) ++
        Bytes.bigEndian draft.checksum ++ inside := by
  have field : Bytes.twoDigits
      (if draft.correctLength then 8 + inside.length else draft.length.toNat) =
        Bytes.bigEndian (if draft.correctLength then UInt16.ofNat (UdpHeader.size + inside.length)
          else draft.length) := by
    split
    · exact Bytes.twoDigits_eq_bigEndian (8 + inside.length)
    · exact Bytes.twoDigits_toNat draft.length
  rw [wire, field]
  simp only [Bytes.twoDigits_toNat]

/-- The layer made of a draft of the library is regular. -/
theorem regular_plainFinish {draft : Draft} (library : draft.sort.isLibrary = true)
    (payloadLength : Nat) : (draft.plainFinish payloadLength).Regular := by
  cases draft with
  | ethernet draft | llcSnap header | udp draft => exact .inr ⟨rfl, rfl⟩
  | custom layer => cases library

/-- The bytes of the layer made of a draft of the library are the wire form of the draft. -/
theorem plainBytes_plainFinish {draft : Draft} (library : draft.sort.isLibrary = true)
    (inside : Bytes) :
    (draft.plainFinish inside.length).plainBytes inside = draft.wire inside := by
  cases draft with
  | ethernet draft =>
    simp [plainFinish, Layer.plainBytes, Layer.replacement?, Layer.headerBytes, Layer.header?,
      Layer.pad, Header.bytes, Header.fields, EthernetHeader.fields, EthernetDraft.headerFor,
      wire_ethernet]
  | llcSnap header =>
    simp [plainFinish, Layer.plainBytes, Layer.replacement?, Layer.headerBytes, Layer.header?,
      Layer.pad, Header.bytes, Header.fields, LlcSnapHeader.fields, wire_llcSnap]
  | udp draft =>
    simp [plainFinish, Layer.plainBytes, Layer.replacement?, Layer.headerBytes, Layer.header?,
      Layer.pad, Header.bytes, Header.fields, UdpHeader.fields, UdpDraft.headerWith, wire_udp]
  | custom layer => cases library

/-- The wire form of a draft of the library has the bytes inside it. -/
theorem length_le_wire {draft : Draft} (library : draft.sort.isLibrary = true) (inside : Bytes) :
    inside.length ≤ (draft.wire inside).length := by
  cases draft with
  | ethernet draft | llcSnap header | udp draft =>
    simp only [wire, List.length_append]
    omega
  | custom layer => cases library

/-- A frame that is filled up has at least sixty bytes, and no pad if it has more without one. -/
theorem length_wire_padded {draft : EthernetDraft} (padded : draft.padAtBuild = true)
    (inside : Bytes) :
    (wire (.ethernet draft) inside).length = max 60 (14 + inside.length) := by
  simp only [wire, padded, if_true, List.length_append, Vector.length_toList,
    Bytes.length_twoDigits, List.length_replicate]
  omega

end Draft

namespace Builder

/-- The payload of a builder of the library is one. -/
theorem Library.payload {draft : Draft} {payload : Builder}
    (library : Library (.wrap draft payload)) : payload.Library :=
  fun inner member => library inner (Chain.mem_walk_wrap member)

/-- The packet made of a builder of the library is regular. -/
theorem Library.regular {builder : Builder} (library : builder.Library) :
    builder.plainBuild.Regular := by
  induction builder with
  | unknown data => trivial
  | bare draft => exact Draft.regular_plainFinish (library _ (Chain.mem_walk_self _)) 0
  | wrap draft payload ih =>
    exact ⟨Draft.regular_plainFinish (library _ (Chain.mem_walk_self _)) _, ih library.payload⟩

/-- The bytes of the packet made of a builder of the library are the wire form of the builder. -/
theorem Library.plainBytes_eq {builder : Builder} (library : builder.Library) :
    builder.plainBuild.plainBytes = builder.wire := by
  induction builder with
  | unknown data => rfl
  | bare draft => exact Draft.plainBytes_plainFinish (library _ (Chain.mem_walk_self _)) []
  | wrap draft payload ih =>
    have inside : Packet.plainBytes (plainBuild payload) = wire payload := ih library.payload
    have count : Packet.plainLength (plainBuild payload) = (wire payload).length := by
      rw [← inside, library.payload.regular.agrees]
    rw [plainBuild, Packet.plainBytes, inside, count, wire]
    exact Draft.plainBytes_plainFinish (library _ (Chain.mem_walk_self _)) (wire payload)

/-- The length of the packet made of a builder of the library is that of the wire form. -/
theorem Library.plainLength_eq {builder : Builder} (library : builder.Library) :
    builder.plainBuild.plainLength = builder.wire.length := by
  rw [← library.plainBytes_eq, library.regular.agrees]

/-- The lengths of the packet made of a builder of the library fit if the wire form does. -/
theorem Library.fitting {builder : Builder} (library : builder.Library)
    (fits : builder.wire.length < UInt64.size) : builder.plainBuild.Fitting := by
  intro inner member
  have whole : Packet.plainLength (plainBuild builder) < UInt64.size := by
    rw [library.plainLength_eq]
    exact fits
  induction builder with
  | unknown data =>
    rw [plainBuild, Chain.walk_unknown, List.mem_singleton] at member
    exact member ▸ whole
  | bare draft =>
    rw [plainBuild, Chain.walk_bare, List.mem_singleton] at member
    exact member ▸ whole
  | wrap draft payload ih =>
    rw [plainBuild, Chain.walk_wrap, List.mem_cons] at member
    rcases member with rfl | member
    · exact whole
    · have inside : (wire payload).length < UInt64.size :=
        Nat.lt_of_le_of_lt
          (Draft.length_le_wire (library _ (Chain.mem_walk_self _)) (wire payload)) fits
      refine ih library.payload inside member ?_
      rw [library.payload.plainLength_eq]
      exact inside

end Builder

end Encapsulation
