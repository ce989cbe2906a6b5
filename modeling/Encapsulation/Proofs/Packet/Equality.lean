import Encapsulation.Proofs.Packet.Composed

/-!
# Laws of equality by the fields

Between composed packets, a layer equals a layer only, and the two agree in the bytes of their
headers and in their pads; raw data equals whatever its kind accepts and has its bytes. So equal
packets have the same bytes even where they have different numbers of layers, and equality is
transitive among kinds that are consistent. Between packets of the library no kind is above
another, and equality says that kinds, pad lengths and bytes agree.
-/
namespace Encapsulation

open Kind (Closed Consistent)

/-- Equality of headers is transitive among kinds that are consistent. -/
theorem Header.plainEquals_trans {family : List Kind} (consistent : Consistent family)
    (closed : Closed family) {first second third : Header} (member : second.kind ∈ family)
    (otherMember : third.kind ∈ family) (front : first.plainEquals second = true)
    (back : second.plainEquals third = true) : first.plainEquals third = true := by
  simp only [plainEquals, Bool.and_eq_true, beq_iff_eq] at front back ⊢
  exact ⟨consistent.accepts_trans closed member otherMember front.1 back.1,
    front.2.trans back.2⟩

namespace Layer

/-- A layer agrees with another one: its kind accepts the other's, the headers are equal, and a
frame agrees with frames of the same pad only. -/
structure Matches (layer other : Layer) : Prop where
  /-- The kind accepts the other one's. -/
  kind : layer.kind.accepts other.kind = true
  /-- The header equals the other one's. -/
  header : layer.plainHeadersEqual other.header? = true
  /-- A frame asks for a frame of the same pad. -/
  trailer : ∀ header pad, layer = .ethernet header pad →
    ∃ otherHeader, other = .ethernet otherHeader pad

variable {layer other third : Layer}

/-- The trailer that a layer asks for is looked for in the outermost layer of the other packet. -/
theorem trailerMatches_iff {packet : Packet} (outermost : packet.layer? = some other) :
    layer.trailerMatches packet = true ↔
      ∀ header pad, layer = .ethernet header pad →
        ∃ otherHeader, other = .ethernet otherHeader pad := by
  cases layer with
  | ethernet header pad =>
    cases other with
    | ethernet otherHeader otherPad =>
      simp only [trailerMatches, Packet.pad?, outermost, beq_iff_eq, Option.some.injEq,
        Layer.ethernet.injEq]
      constructor
      · rintro rfl _ _ ⟨rfl, rfl⟩
        exact ⟨otherHeader, rfl, rfl⟩
      · intro asked
        obtain ⟨_, rfl, same⟩ := asked header pad ⟨rfl, rfl⟩
        exact same
    | llcSnap otherHeader => simp [trailerMatches, Packet.pad?, outermost]
    | udp otherHeader => simp [trailerMatches, Packet.pad?, outermost]
    | custom fields => simp [trailerMatches, Packet.pad?, outermost]
  | llcSnap header => simp [trailerMatches]
  | udp header => simp [trailerMatches]
  | custom fields => simp [trailerMatches]

/-- A layer without a header equals, in its header, the layers without one. -/
theorem plainHeadersEqual_none_iff :
    layer.plainHeadersEqual none = true ↔ layer.header? = none := by
  cases own : layer.header? <;> simp [plainHeadersEqual, own]

/-- A layer with a header equals, in its header, the layers whose header is equal. -/
theorem plainHeadersEqual_some_iff {otherHeader : Header} :
    layer.plainHeadersEqual (some otherHeader) = true ↔
      ∃ header, layer.header? = some header ∧ header.plainEquals otherHeader = true := by
  cases own : layer.header? <;> simp [plainHeadersEqual, own]

/-- Layers that agree have headers of the same bytes. -/
theorem Matches.headerBytes_eq (fit : layer.Matches other) :
    layer.headerBytes = other.headerBytes := by
  cases others : other.header? with
  | none =>
    have own := plainHeadersEqual_none_iff.mp (others ▸ fit.header)
    simp only [headerBytes, own, others]
  | some otherHeader =>
    obtain ⟨header, own, equal⟩ := plainHeadersEqual_some_iff.mp (others ▸ fit.header)
    rw [Header.plainEquals, Bool.and_eq_true, beq_iff_eq] at equal
    simp only [headerBytes, own, others, equal.2]

/-- Only frames have a pad. -/
theorem pad_eq_nil (unframed : ∀ header pad, layer ≠ .ethernet header pad) :
    layer.pad = [] := by
  cases layer with
  | ethernet header pad => exact absurd rfl (unframed header pad)
  | llcSnap header => rfl
  | udp header => rfl
  | custom fields => rfl

/-- Composed layers that agree have the same pad. -/
theorem Matches.pad_eq (fit : layer.Matches other) (composed : layer.Composed) :
    layer.pad = other.pad := by
  have frames : ∀ header pad, other = .ethernet header pad → layer.kind.owner = .ethernet := by
    rintro header pad rfl
    exact (Kind.accepts_iff_of_root rfl).mp fit.kind
  by_cases owner : layer.kind.owner = .ethernet
  · obtain ⟨header, pad, rfl⟩ := composed.eq_ethernet owner
    obtain ⟨otherHeader, rfl⟩ := fit.trailer header pad rfl
    rfl
  · have own : layer.pad = [] := pad_eq_nil fun header pad same => owner (same ▸ rfl)
    have others : other.pad = [] := pad_eq_nil fun header pad same =>
      owner (frames header pad same)
    rw [own, others]

/-- Agreement of layers is transitive among kinds that are consistent. -/
theorem Matches.trans {family : List Kind} (consistent : Consistent family)
    (closed : Closed family) (kind : other.kind ∈ family) (otherKind : third.kind ∈ family)
    (headers : ∀ header, other.header? = some header → header.kind ∈ family)
    (otherHeaders : ∀ header, third.header? = some header → header.kind ∈ family)
    (front : layer.Matches other) (back : other.Matches third) : layer.Matches third where
  kind := consistent.accepts_trans closed kind otherKind front.kind back.kind
  header := by
    cases last : third.header? with
    | none =>
      have middle := (plainHeadersEqual_none_iff).mp (last ▸ back.header)
      exact plainHeadersEqual_none_iff.mpr
        (plainHeadersEqual_none_iff.mp (middle ▸ front.header))
    | some lastHeader =>
      obtain ⟨middleHeader, middle, second⟩ := plainHeadersEqual_some_iff.mp (last ▸ back.header)
      obtain ⟨ownHeader, own, first⟩ := plainHeadersEqual_some_iff.mp (middle ▸ front.header)
      exact plainHeadersEqual_some_iff.mpr ⟨ownHeader, own,
        Header.plainEquals_trans consistent closed (headers _ middle) (otherHeaders _ last)
          first second⟩
  trailer := by
    intro header pad same
    obtain ⟨otherHeader, rfl⟩ := front.trailer header pad same
    exact back.trailer otherHeader pad rfl

end Layer

namespace Packet

/-- Raw data equals what its kind accepts and has its bytes. -/
theorem plainEquals_unknown {data : Bytes} {other : Packet} :
    plainEquals (.unknown data) other = true ↔
      Kind.unknown.accepts other.kind = true ∧ data = other.plainBytes := by
  simp [plainEquals]

/-- A comparison of a layer with a layer asks whether they agree, and whether the payloads are
equal. -/
theorem plainEqualsAround_iff (layer : Layer) {otherLayer : Layer} (other : Packet)
    (outermost : other.layer? = some otherLayer) (payloadEquals : Option Packet → Bool) :
    layer.plainEqualsAround other payloadEquals = true ↔
      layer.Matches otherLayer ∧ payloadEquals other.payload? = true := by
  simp only [Layer.plainEqualsAround, Bool.and_eq_true, kind_of_layer outermost,
    header?_of_layer outermost, Layer.trailerMatches_iff outermost]
  constructor
  · rintro ⟨⟨accepted, headers⟩, payloads, trailer⟩
    exact ⟨⟨accepted, headers, trailer⟩, payloads⟩
  · rintro ⟨⟨accepted, headers, trailer⟩, payloads⟩
    exact ⟨⟨accepted, headers⟩, payloads, trailer⟩

/-- A composed layer does not equal raw data. -/
theorem plainEqualsAround_unknown {layer : Layer} (composed : layer.Composed) (data : Bytes)
    (payloadEquals : Option Packet → Bool) :
    layer.plainEqualsAround (.unknown data) payloadEquals = false := by
  have refused : layer.kind.accepts (Chain.kind (.unknown data : Packet)) = false := by
    by_contra accepted
    rw [Bool.not_eq_false] at accepted
    exact composed.owner_ne_unknown ((Kind.accepts_iff_of_root rfl).mp accepted)
  simp only [Layer.plainEqualsAround, refused, Bool.false_and]

/-- A composed layer without a payload equals the layers without a payload that it agrees with. -/
theorem plainEquals_bare {layer : Layer} {other : Packet} (composed : layer.Composed) :
    plainEquals (.bare layer) other = true ↔
      ∃ otherLayer, other = .bare otherLayer ∧ layer.Matches otherLayer := by
  cases other with
  | unknown data => simp [plainEquals, plainEqualsAround_unknown composed]
  | bare otherLayer =>
    have around := plainEqualsAround_iff layer (.bare otherLayer) rfl
    simp [plainEquals, around, Chain.payload?]
  | wrap otherLayer otherPayload =>
    have around := plainEqualsAround_iff layer (.wrap otherLayer otherPayload) rfl
    simp [plainEquals, around, Chain.payload?]

/-- A composed layer around a payload equals the layers that it agrees with, around payloads that
its payload equals. -/
theorem plainEquals_wrap {layer : Layer} {payload other : Packet} (composed : layer.Composed) :
    plainEquals (.wrap layer payload) other = true ↔
      ∃ otherLayer otherPayload, other = .wrap otherLayer otherPayload ∧
        layer.Matches otherLayer ∧ payload.plainEquals otherPayload = true := by
  cases other with
  | unknown data => simp [plainEquals, plainEqualsAround_unknown composed]
  | bare otherLayer =>
    have around := plainEqualsAround_iff layer (.bare otherLayer) rfl
    simp [plainEquals, around, Chain.payload?]
  | wrap otherLayer otherPayload =>
    have around := plainEqualsAround_iff layer (.wrap otherLayer otherPayload) rfl
    simp [plainEquals, around, Chain.payload?]

variable {left middle right : Packet}

/-- A packet equals only what its kind accepts. -/
theorem accepts_of_plainEquals (composed : left.Composed)
    (equal : left.plainEquals right = true) : left.kind.accepts right.kind = true := by
  cases left with
  | unknown data => exact (plainEquals_unknown.mp equal).1
  | bare layer =>
    obtain ⟨otherLayer, rfl, fit⟩ := (plainEquals_bare composed).mp equal
    exact fit.kind
  | wrap layer payload =>
    obtain ⟨otherLayer, otherPayload, rfl, fit, -⟩ := (plainEquals_wrap composed.1).mp equal
    exact fit.kind

/-- Composed packets that are equal have the same bytes. -/
theorem Composed.plainBytes_eq (composed : left.Composed) (otherComposed : right.Composed)
    (equal : left.plainEquals right = true) : left.plainBytes = right.plainBytes := by
  induction left generalizing right with
  | unknown data => exact (plainEquals_unknown.mp equal).2
  | bare layer =>
    obtain ⟨otherLayer, rfl, fit⟩ := (plainEquals_bare composed).mp equal
    have own := Layer.Composed.plainBytes_eq composed []
    have others := Layer.Composed.plainBytes_eq otherComposed []
    rw [plainBytes, plainBytes, own, others, fit.headerBytes_eq, fit.pad_eq composed]
  | wrap layer payload ih =>
    obtain ⟨otherLayer, otherPayload, rfl, fit, inside⟩ :=
      (plainEquals_wrap composed.1).mp equal
    rw [plainBytes, plainBytes, composed.1.plainBytes_eq, otherComposed.1.plainBytes_eq,
      fit.headerBytes_eq, fit.pad_eq composed.1, ih composed.2 otherComposed.2 inside]

/-- The kinds of the outermost layer and of its header, and the ancestors of these kinds. -/
def outermostKinds (packet : Packet) : List Kind :=
  packet.kind.lineage ++ (packet.header?.toList.map Header.kind).flatMap Kind.lineage

/-- The kinds of the layers and headers of a packet, and the ancestors of these kinds. -/
def involved (packet : Packet) : List Kind := packet.walk.flatMap outermostKinds

/-- The kinds that a packet involves are closed under parents. -/
theorem closed_involved (packet : Packet) : Closed packet.involved :=
  Closed.flatMap fun inner _ => (Kind.closed_lineage inner.kind).append (Kind.closed_lineages _)

/-- A packet involves its own kind. -/
theorem kind_mem_involved (packet : Packet) : packet.kind ∈ packet.involved := by
  have own : packet.kind ∈ packet.outermostKinds :=
    List.mem_append_left _ packet.kind.mem_lineage_self
  exact List.mem_flatMap.mpr ⟨packet, packet.mem_walk_self, own⟩

/-- A packet involves the kind of its header. -/
theorem headerKind_mem_involved {packet : Packet} {header : Header}
    (present : packet.header? = some header) : header.kind ∈ packet.involved := by
  have own : header.kind ∈ packet.outermostKinds := by
    simp [outermostKinds, present]
  exact List.mem_flatMap.mpr ⟨packet, packet.mem_walk_self, own⟩

/-- A layer around a payload involves the kinds that the payload does. -/
theorem involved_payload_subset (layer : Layer) (payload : Packet) :
    payload.involved ⊆ involved (.wrap layer payload) := by
  intro kind member
  obtain ⟨inner, inside, below⟩ := List.mem_flatMap.mp member
  exact List.mem_flatMap.mpr ⟨inner, Chain.mem_walk_wrap inside, below⟩

/-- Agreement of the outermost layers of packets is transitive among kinds that are consistent. -/
theorem matches_trans {family : List Kind} (consistent : Consistent family)
    (closed : Closed family) {first second third : Layer} {middle right : Packet}
    (middleLayer : middle.layer? = some second) (rightLayer : right.layer? = some third)
    (within : middle.involved ⊆ family) (rightWithin : right.involved ⊆ family)
    (front : first.Matches second) (back : second.Matches third) : first.Matches third := by
  have kinds : ∀ {packet : Packet} {layer : Layer}, packet.layer? = some layer →
      packet.kind = layer.kind ∧ packet.header? = layer.header? := by
    intro packet layer outermost
    cases packet with
    | unknown data => cases outermost
    | bare found =>
      obtain rfl := Option.some.inj outermost
      exact ⟨rfl, rfl⟩
    | wrap found payload =>
      obtain rfl := Option.some.inj outermost
      exact ⟨rfl, rfl⟩
  obtain ⟨kind, headers⟩ := kinds middleLayer
  obtain ⟨rightKind, rightHeaders⟩ := kinds rightLayer
  exact front.trans consistent closed (kind ▸ within middle.kind_mem_involved)
    (rightKind ▸ rightWithin right.kind_mem_involved)
    (fun header present => within (headerKind_mem_involved (headers.trans present)))
    (fun header present => rightWithin (headerKind_mem_involved (rightHeaders.trans present))) back

/-- Equality of composed packets is transitive among kinds that are consistent. -/
theorem Composed.plainEquals_trans {family : List Kind} (consistent : Consistent family)
    (closed : Closed family) (composed : left.Composed) (middleComposed : middle.Composed)
    (rightComposed : right.Composed) (within : middle.involved ⊆ family)
    (rightWithin : right.involved ⊆ family) (front : left.plainEquals middle = true)
    (back : middle.plainEquals right = true) : left.plainEquals right = true := by
  induction left generalizing middle right with
  | unknown data =>
    obtain ⟨accepted, bytes⟩ := plainEquals_unknown.mp front
    have onward := accepts_of_plainEquals middleComposed back
    have sameBytes := middleComposed.plainBytes_eq rightComposed back
    refine plainEquals_unknown.mpr ⟨?_, bytes.trans sameBytes⟩
    exact consistent.accepts_trans closed (within middle.kind_mem_involved)
      (rightWithin right.kind_mem_involved) accepted onward
  | bare layer =>
    obtain ⟨second, rfl, fit⟩ := (plainEquals_bare composed).mp front
    obtain ⟨third, rfl, onward⟩ := (plainEquals_bare middleComposed).mp back
    refine (plainEquals_bare composed).mpr ⟨third, rfl, ?_⟩
    exact matches_trans consistent closed rfl rfl within rightWithin fit onward
  | wrap layer payload ih =>
    obtain ⟨second, secondPayload, rfl, fit, inside⟩ := (plainEquals_wrap composed.1).mp front
    obtain ⟨third, thirdPayload, rfl, onward, further⟩ :=
      (plainEquals_wrap middleComposed.1).mp back
    refine (plainEquals_wrap composed.1).mpr ⟨third, thirdPayload, rfl, ?_, ?_⟩
    · exact matches_trans consistent closed rfl rfl within rightWithin fit onward
    · exact ih composed.2 middleComposed.2 rightComposed.2
        (List.Subset.trans (involved_payload_subset second secondPayload) within)
        (List.Subset.trans (involved_payload_subset third thirdPayload) rightWithin) inside further

end Packet

end Encapsulation
