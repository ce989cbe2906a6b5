import Encapsulation.Proofs.Packet.Equality

/-!
# Equality of packets of the library

Between packets of the library, equality can be read off three things: the kinds of the layers, how
long the pads of the frames are, and the bytes of the whole packet. The kinds give the sizes of all
headers, so that with the lengths of the pads the bytes split in one way only.
-/
namespace Encapsulation

namespace Header

/-- The header of a frame takes fourteen bytes. -/
@[simp]
theorem size_ethernet (header : EthernetHeader) : (ethernet header).size = 14 := by
  simp [size, fields, EthernetHeader.fields]

/-- A header made of an LLC and a SNAP part takes eight bytes. -/
@[simp]
theorem size_llcSnap (header : LlcSnapHeader) : (llcSnap header).size = 8 := by
  simp [size, fields, LlcSnapHeader.fields]

/-- The header of a datagram takes eight bytes. -/
@[simp]
theorem size_udp (header : UdpHeader) : (udp header).size = 8 := rfl

end Header

namespace Layer

/-- Two layers of the library that are of one kind. -/
inductive Akin : Layer → Layer → Prop where
  /-- Two frames. -/
  | ethernet (header otherHeader : EthernetHeader) (pad otherPad : Bytes) :
    Akin (.ethernet header pad) (.ethernet otherHeader otherPad)
  /-- Two packets with LLC and SNAP headers. -/
  | llcSnap (header otherHeader : LlcSnapHeader) : Akin (.llcSnap header) (.llcSnap otherHeader)
  /-- Two datagrams. -/
  | udp (header otherHeader : UdpHeader) : Akin (.udp header) (.udp otherHeader)

variable {layer other : Layer}

/-- A layer that a caller defines is not one of the library's own. -/
theorem not_library_custom (fields : CustomLayer) : (sort (.custom fields)).isLibrary ≠ true := by
  rw [sort]
  split
  · exact Bool.false_ne_true
  · exact Bool.false_ne_true

/-- Layers of the library whose kinds have one owner are akin. -/
theorem akin_of_owner (library : layer.sort.isLibrary = true)
    (otherLibrary : other.sort.isLibrary = true) (same : layer.kind.owner = other.kind.owner) :
    layer.Akin other := by
  cases layer with
  | ethernet header pad =>
    cases other with
    | ethernet otherHeader otherPad => exact .ethernet header otherHeader pad otherPad
    | llcSnap otherHeader => cases same
    | udp otherHeader => cases same
    | custom fields => exact absurd otherLibrary (not_library_custom fields)
  | llcSnap header =>
    cases other with
    | ethernet otherHeader otherPad => cases same
    | llcSnap otherHeader => exact .llcSnap header otherHeader
    | udp otherHeader => cases same
    | custom fields => exact absurd otherLibrary (not_library_custom fields)
  | udp header =>
    cases other with
    | ethernet otherHeader otherPad => cases same
    | llcSnap otherHeader => cases same
    | udp otherHeader => exact .udp header otherHeader
    | custom fields => exact absurd otherLibrary (not_library_custom fields)
  | custom fields => exact absurd library (not_library_custom fields)

/-- Layers that are akin are of the same kind. -/
theorem Akin.kind_eq (akin : layer.Akin other) : layer.kind = other.kind := by
  cases akin <;> rfl

/-- Layers that are akin are of the same sort. -/
theorem Akin.sort_eq (akin : layer.Akin other) : layer.sort = other.sort := by
  cases akin <;> rfl

/-- Layers that are akin are composed. -/
theorem Akin.composed (akin : layer.Akin other) : layer.Composed ∧ other.Composed := by
  cases akin <;> exact ⟨composed_of_library rfl, composed_of_library rfl⟩

/-- Layers that are akin have headers of one size. -/
theorem Akin.headerSize_eq (akin : layer.Akin other) : layer.headerSize = other.headerSize := by
  cases akin <;> simp [headerSize, header?]

/-- Headers of the same bytes are equal where the kinds fit. -/
theorem plainHeadersEqual_of_bytes {header otherHeader : Header}
    (present : layer.header? = some header) (otherPresent : other.header? = some otherHeader)
    (accepted : header.kind.accepts otherHeader.kind = true)
    (same : layer.headerBytes = other.headerBytes) :
    layer.plainHeadersEqual other.header? = true := by
  simp only [headerBytes, present, otherPresent] at same
  refine otherPresent ▸ plainHeadersEqual_some_iff.mpr ⟨header, present, ?_⟩
  rw [Header.plainEquals, accepted, same, beq_self_eq_true, Bool.and_self]

/-- Layers that are akin agree if they have the same header bytes and the same pad. -/
theorem Akin.matches_iff (akin : layer.Akin other) :
    layer.Matches other ↔ layer.headerBytes = other.headerBytes ∧ layer.pad = other.pad := by
  constructor
  · intro fit
    exact ⟨fit.headerBytes_eq, fit.pad_eq akin.composed.1⟩
  · rintro ⟨headers, pads⟩
    have kinds : layer.kind.accepts other.kind = true := by
      rw [akin.kind_eq]
      exact Kind.accepts_self _
    refine ⟨kinds, ?_, ?_⟩
    · cases akin <;> exact plainHeadersEqual_of_bytes rfl rfl (Kind.accepts_self _) headers
    · rintro header pad rfl
      cases akin with
      | ethernet _ otherHeader _ otherPad => exact ⟨otherHeader, congrArg _ pads.symm⟩

/-- Layers that are akin agree, around the same payload bytes, if and only if they have pads of one
length and the same bytes: the headers are of one size, so that the bytes split in one way. -/
theorem Akin.matches_and_eq_iff (akin : layer.Akin other) (payload otherPayload : Bytes) :
    layer.Matches other ∧ payload = otherPayload ↔
      layer.pad.length = other.pad.length ∧
        layer.plainBytes payload = other.plainBytes otherPayload := by
  have sizes : layer.headerBytes.length = other.headerBytes.length := by
    rw [length_headerBytes, length_headerBytes, akin.headerSize_eq]
  rw [akin.matches_iff, akin.composed.1.plainBytes_eq, akin.composed.2.plainBytes_eq]
  constructor
  · rintro ⟨⟨headers, pads⟩, rfl⟩
    rw [headers, pads]
    exact ⟨rfl, rfl⟩
  · rintro ⟨lengths, bytes⟩
    obtain ⟨fronts, pads⟩ := List.append_inj' bytes lengths
    obtain ⟨headers, payloads⟩ := List.append_inj fronts sizes
    exact ⟨⟨headers, pads⟩, payloads⟩

end Layer

namespace Packet

/-- Layer by layer, outermost first, the number of bytes of the pad if the layer is a frame. -/
def padLengths (packet : Packet) : List (Option Nat) :=
  packet.walk.map fun inner => (pad? inner).map List.length

/-- The kinds of the layers begin with that of the outermost one. -/
theorem head?_kinds (packet : Packet) : packet.kinds.head? = some packet.kind := by
  cases packet <;> rfl

/-- There is no packet without a kind. -/
theorem kinds_ne_nil (packet : Packet) : packet.kinds ≠ [] := by
  intro none
  have head := packet.head?_kinds
  rw [none] at head
  cases head

/-- The pad of a frame comes before those of its payload. -/
theorem padLengths_wrap (layer : Layer) (payload : Packet) :
    padLengths (.wrap layer payload) =
      (pad? (.bare layer)).map List.length :: payload.padLengths := rfl

/-- The pads of layers that are akin have the same length if they are both listed alike. -/
theorem length_pad?_iff {layer other : Layer} (akin : layer.Akin other) :
    (pad? (.bare layer)).map List.length = (pad? (.bare other)).map List.length ↔
      layer.pad.length = other.pad.length := by
  cases akin <;> simp [pad?, Chain.layer?, Layer.pad]

/-- Packets of a single layer list their pads alike if the pads have the same length. -/
theorem padLengths_bare_iff {layer other : Layer} (akin : layer.Akin other) :
    padLengths (.bare layer) = padLengths (.bare other) ↔
      layer.pad.length = other.pad.length := by
  rw [← length_pad?_iff akin]
  exact List.singleton_inj

/-- Two packets whose layers are akin, one by one. -/
inductive SameShape : Packet → Packet → Prop where
  /-- Raw data on both sides. -/
  | unknown (data otherData : Bytes) : SameShape (.unknown data) (.unknown otherData)
  /-- Layers that are akin, without payloads. -/
  | bare {layer other : Layer} (akin : layer.Akin other) : SameShape (.bare layer) (.bare other)
  /-- Layers that are akin, around payloads that are. -/
  | wrap {layer other : Layer} {payload otherPayload : Packet} (akin : layer.Akin other)
    (inside : SameShape payload otherPayload) :
    SameShape (.wrap layer payload) (.wrap other otherPayload)

variable {left right : Packet}

/-- Packets of one shape have layers of the same kinds. -/
theorem SameShape.kinds_eq (shape : SameShape left right) : left.kinds = right.kinds := by
  induction shape with
  | unknown data otherData => rfl
  | bare akin => exact congrArg (· :: []) akin.kind_eq
  | wrap akin _ ih => exact congrArg₂ List.cons akin.kind_eq ih

/-- The kind of a packet of the library is accepted by the kinds of its owner only. -/
theorem owner_eq_of_accepts {kind : Kind} (library : right.Library)
    (accepted : kind.accepts right.kind = true) : kind.owner = right.kind.owner := by
  cases right with
  | unknown data => exact (Kind.accepts_iff_of_root rfl).mp accepted
  | bare layer => exact (Kind.accepts_iff_of_root (Layer.parent?_of_library library)).mp accepted
  | wrap layer payload =>
    exact (Kind.accepts_iff_of_root (Layer.parent?_of_library library.1)).mp accepted

/-- A packet of the library that is of the kind of raw data is raw data. -/
theorem Library.eq_unknown (library : right.Library) (owner : right.kind.owner = .unknown) :
    ∃ data, right = .unknown data := by
  cases right with
  | unknown data => exact ⟨data, rfl⟩
  | bare layer => exact absurd owner (Layer.composed_of_library library).owner_ne_unknown
  | wrap layer payload => exact absurd owner (Layer.composed_of_library library.1).owner_ne_unknown

/-- Packets of the library with layers of the same kinds are of one shape. -/
theorem Library.sameShape_of_kinds (library : left.Library) (otherLibrary : right.Library)
    (same : left.kinds = right.kinds) : SameShape left right := by
  induction left generalizing right with
  | unknown data =>
    have outermost : Kind.unknown = right.kind :=
      Option.some.inj ((congrArg List.head? same).trans right.head?_kinds)
    obtain ⟨otherData, rfl⟩ := otherLibrary.eq_unknown (congrArg Kind.owner outermost.symm)
    exact .unknown data otherData
  | bare layer =>
    cases right with
    | unknown otherData =>
      have owner : layer.kind.owner = .unknown := congrArg Kind.owner (List.cons.inj same).1
      exact absurd owner (Layer.composed_of_library library).owner_ne_unknown
    | bare other =>
      have owner : layer.kind.owner = other.kind.owner :=
        congrArg Kind.owner (List.cons.inj same).1
      exact .bare (Layer.akin_of_owner library otherLibrary owner)
    | wrap other otherPayload =>
      exact absurd (List.cons.inj same).2.symm (kinds_ne_nil otherPayload)
  | wrap layer payload ih =>
    cases right with
    | unknown otherData => exact absurd (List.cons.inj same).2 (kinds_ne_nil payload)
    | bare other => exact absurd (List.cons.inj same).2 (kinds_ne_nil payload)
    | wrap other otherPayload =>
      obtain ⟨kind, others⟩ := List.cons.inj same
      exact .wrap (Layer.akin_of_owner library.1 otherLibrary.1 (congrArg Kind.owner kind))
        (ih library.2 otherLibrary.2 others)

/-- Equal packets of the library are of one shape. -/
theorem Library.sameShape_of_plainEquals (library : left.Library) (otherLibrary : right.Library)
    (equal : left.plainEquals right = true) : SameShape left right := by
  induction left generalizing right with
  | unknown data =>
    have owner : Kind.unknown.owner = right.kind.owner :=
      owner_eq_of_accepts otherLibrary (plainEquals_unknown.mp equal).1
    obtain ⟨otherData, rfl⟩ := otherLibrary.eq_unknown owner.symm
    exact .unknown data otherData
  | bare layer =>
    obtain ⟨other, rfl, fit⟩ := (plainEquals_bare (Layer.composed_of_library library)).mp equal
    exact .bare (Layer.akin_of_owner library otherLibrary
      (owner_eq_of_accepts otherLibrary fit.kind))
  | wrap layer payload ih =>
    obtain ⟨other, otherPayload, rfl, fit, inside⟩ :=
      (plainEquals_wrap (Layer.composed_of_library library.1)).mp equal
    exact .wrap (Layer.akin_of_owner library.1 otherLibrary.1
      (owner_eq_of_accepts otherLibrary fit.kind)) (ih library.2 otherLibrary.2 inside)

/-- Between packets of one shape, equality says that the pads of the frames have the same lengths
and the bytes are the same. -/
theorem SameShape.plainEquals_iff (shape : SameShape left right) :
    left.plainEquals right = true ↔
      left.padLengths = right.padLengths ∧ left.plainBytes = right.plainBytes := by
  induction shape with
  | unknown data otherData =>
    rw [plainEquals_unknown]
    exact ⟨fun ⟨_, bytes⟩ => ⟨rfl, bytes⟩, fun ⟨_, bytes⟩ => ⟨Kind.accepts_self _, bytes⟩⟩
  | bare akin =>
    rw [plainEquals_bare akin.composed.1, padLengths_bare_iff akin]
    have split := akin.matches_and_eq_iff [] []
    constructor
    · rintro ⟨_, ⟨⟩, fit⟩
      exact split.mp ⟨fit, rfl⟩
    · intro same
      exact ⟨_, rfl, (split.mpr same).1⟩
  | @wrap layer other payload otherPayload akin _ ih =>
    rw [plainEquals_wrap akin.composed.1, padLengths_wrap, padLengths_wrap, List.cons.injEq,
      length_pad?_iff akin]
    have split := akin.matches_and_eq_iff payload.plainBytes otherPayload.plainBytes
    constructor
    · rintro ⟨_, _, ⟨⟩, fit, inside⟩
      obtain ⟨lengths, bytes⟩ := ih.mp inside
      obtain ⟨length, all⟩ := split.mp ⟨fit, bytes⟩
      exact ⟨⟨length, lengths⟩, all⟩
    · rintro ⟨⟨length, lengths⟩, all⟩
      obtain ⟨fit, bytes⟩ := split.mpr ⟨length, all⟩
      exact ⟨_, _, rfl, fit, ih.mpr ⟨lengths, bytes⟩⟩

/-- Packets of the library are equal if and only if their layers are of the same kinds, their frames
have pads of the same lengths, and their bytes are the same. -/
theorem Library.plainEquals_iff (library : left.Library) (otherLibrary : right.Library) :
    left.plainEquals right = true ↔ left.kinds = right.kinds ∧
      left.padLengths = right.padLengths ∧ left.plainBytes = right.plainBytes := by
  constructor
  · intro equal
    have shape := library.sameShape_of_plainEquals otherLibrary equal
    exact ⟨shape.kinds_eq, shape.plainEquals_iff.mp equal⟩
  · rintro ⟨kinds, rest⟩
    exact (library.sameShape_of_kinds otherLibrary kinds).plainEquals_iff.mpr rest

end Packet

end Encapsulation
