import Encapsulation.Proofs.Access.Equality
import Encapsulation.Proofs.Memo.Footprint
import Encapsulation.Proofs.Packet.Library
import Encapsulation.Proofs.Packet.Position

/-!
# What a comparison computes

A comparison of two packets walks along both from the outside in. It reaches a position if both have
a layer there, if the kinds agree up to it, and if the headers agree before it. At each position that
it reaches, the bytes of both headers are computed, or those of both packets where they are raw data.
That is all that a comparison of packets of the library computes, whatever the pads are.
-/
namespace Encapsulation

open Memo (Canon)
open Memo.Eval (Fills)

/-- Layers that are akin have headers of one kind. -/
theorem Layer.Akin.headers {layer other : Layer} (akin : layer.Akin other) :
    ∃ header otherHeader, layer.header? = some header ∧ other.header? = some otherHeader ∧
      header.kind = otherHeader.kind := by
  cases akin with
  | ethernet header otherHeader pad otherPad => exact ⟨_, _, rfl, rfl, rfl⟩
  | llcSnap header otherHeader => exact ⟨_, _, rfl, rfl, rfl⟩
  | udp header otherHeader => exact ⟨_, _, rfl, rfl, rfl⟩

namespace Packet

/-- The bytes of the header of the outermost layer, if it has one. -/
def headerBytes? (packet : Packet) : Option Bytes := packet.header?.map Header.bytes

/-- A comparison of two packets that goes from the outside in reaches the layers at a position: the
kinds agree up to there, and the headers agree before it. -/
structure Reaches (packet other : Packet) (position : Nat) (inner otherInner : Packet) : Prop where
  /-- The layer of the packet that is asked. -/
  found : packet.inner? position = some inner
  /-- The layer of the other packet. -/
  otherFound : other.inner? position = some otherInner
  /-- The kinds agree, at the position as well. -/
  kinds : ∀ earlier ≤ position,
    (packet.inner? earlier).map Chain.kind = (other.inner? earlier).map Chain.kind
  /-- The bytes of the headers agree. -/
  headers : ∀ earlier < position,
    (packet.inner? earlier).bind headerBytes? = (other.inner? earlier).bind headerBytes?

/-- The cells of what is computed where two layers are compared. -/
def compared (chain otherChain : Nat) (inner otherInner : Packet) : Set Cell :=
  { cell | cell.view = .bytes ∧
    (inner.header?.isSome = true ∧ otherInner.header?.isSome = true ∧
        (cell.object = inner.headerObject chain ∨ cell.object = otherInner.headerObject otherChain) ∨
      inner.kind = .unknown ∧
        (cell.object = inner.object chain ∨ cell.object = otherInner.object otherChain)) }

/-- The cells of what is computed where two packets are compared. -/
def footprint (chain otherChain : Nat) (packet other : Packet) : Set Cell :=
  { cell | ∃ position inner otherInner, packet.Reaches other position inner otherInner ∧
    cell ∈ compared chain otherChain inner otherInner }

/-- The cells of what is computed where the payloads of two packets are compared. -/
def footprintInside (chain otherChain : Nat) (packet other : Packet) : Set Cell :=
  { cell | ∃ payload otherPayload : Packet, packet.payload? = some payload ∧
    other.payload? = some otherPayload ∧ cell ∈ footprint chain otherChain payload otherPayload }

section Reaches

variable {packet other inner otherInner : Packet} {chain otherChain position : Nat}

/-- A comparison reaches the outermost layers if they are of one kind. -/
theorem reaches_zero_iff :
    packet.Reaches other 0 inner otherInner ↔
      packet.kind = other.kind ∧ packet = inner ∧ other = otherInner := by
  have outermost := packet.inner?_zero
  have otherOutermost := other.inner?_zero
  constructor
  · intro reaches
    have kinds := reaches.kinds 0 (Nat.le_refl 0)
    rw [outermost, otherOutermost] at kinds
    exact ⟨Option.some.inj kinds, Option.some.inj (outermost.symm.trans reaches.found),
      Option.some.inj (otherOutermost.symm.trans reaches.otherFound)⟩
  · rintro ⟨kinds, rfl, rfl⟩
    refine ⟨outermost, otherOutermost, fun earlier le => ?_, fun earlier lt => ?_⟩
    · obtain rfl := Nat.le_zero.mp le
      rw [outermost, otherOutermost]
      exact congrArg some kinds
    · exact absurd lt (Nat.not_lt_zero earlier)

/-- A comparison reaches a position further in if the outermost layers are of one kind and have
headers of the same bytes, and if the comparison of the payloads gets there. -/
theorem reaches_succ_iff :
    packet.Reaches other (position + 1) inner otherInner ↔
      packet.kind = other.kind ∧ packet.headerBytes? = other.headerBytes? ∧
        ∃ payload otherPayload : Packet, packet.payload? = some payload ∧
          other.payload? = some otherPayload ∧ payload.Reaches otherPayload position inner otherInner := by
  have outermost := packet.inner?_zero
  have otherOutermost := other.inner?_zero
  constructor
  · rintro ⟨found, otherFound, kinds, headers⟩
    have kind := kinds 0 (Nat.zero_le _)
    have header := headers 0 (Nat.succ_pos position)
    rw [outermost, otherOutermost] at kind header
    rw [Chain.inner?_succ] at found otherFound
    obtain ⟨payload, present, found⟩ := Option.bind_eq_some_iff.mp found
    obtain ⟨otherPayload, otherPresent, otherFound⟩ := Option.bind_eq_some_iff.mp otherFound
    refine ⟨Option.some.inj kind, header, payload, otherPayload, present, otherPresent, found,
      otherFound, fun earlier le => ?_, fun earlier lt => ?_⟩
    · have further := kinds (earlier + 1) (Nat.succ_le_succ le)
      rwa [Chain.inner?_succ, Chain.inner?_succ, present, otherPresent] at further
    · have further := headers (earlier + 1) (Nat.succ_lt_succ lt)
      rwa [Chain.inner?_succ, Chain.inner?_succ, present, otherPresent] at further
  · rintro ⟨kind, header, payload, otherPayload, present, otherPresent, reaches⟩
    refine ⟨?_, ?_, fun earlier le => ?_, fun earlier lt => ?_⟩
    · rw [Chain.inner?_succ, present]
      exact reaches.found
    · rw [Chain.inner?_succ, otherPresent]
      exact reaches.otherFound
    · cases earlier with
      | zero =>
        rw [outermost, otherOutermost]
        exact congrArg some kind
      | succ earlier =>
        rw [Chain.inner?_succ, Chain.inner?_succ, present, otherPresent]
        exact reaches.kinds earlier (Nat.le_of_succ_le_succ le)
    · cases earlier with
      | zero =>
        rw [outermost, otherOutermost]
        exact header
      | succ earlier =>
        rw [Chain.inner?_succ, Chain.inner?_succ, present, otherPresent]
        exact reaches.headers earlier (Nat.lt_of_succ_lt_succ lt)

/-- Where a comparison reaches two layers whose headers agree, it reaches their payloads if these are
of one kind. The pads of the two layers do not come into it. -/
theorem Reaches.inside {payload otherPayload : Packet}
    (reaches : packet.Reaches other position inner otherInner)
    (headers : inner.headerBytes? = otherInner.headerBytes?)
    (present : inner.payload? = some payload) (otherPresent : otherInner.payload? = some otherPayload)
    (kinds : payload.kind = otherPayload.kind) :
    packet.Reaches other (position + 1) payload otherPayload := by
  induction position generalizing packet other with
  | zero =>
    obtain ⟨same, rfl, rfl⟩ := reaches_zero_iff.mp reaches
    exact reaches_succ_iff.mpr ⟨same, headers, payload, otherPayload, present, otherPresent,
      reaches_zero_iff.mpr ⟨kinds, rfl, rfl⟩⟩
  | succ position ih =>
    obtain ⟨same, agree, middle, otherMiddle, within, otherWithin, onward⟩ :=
      reaches_succ_iff.mp reaches
    exact reaches_succ_iff.mpr
      ⟨same, agree, middle, otherMiddle, within, otherWithin, ih onward⟩

/-- Nothing is computed if the outermost layers are of different kinds. -/
theorem footprint_of_kind_ne (differ : packet.kind ≠ other.kind) :
    footprint chain otherChain packet other = ∅ := by
  refine Set.eq_empty_of_forall_notMem ?_
  rintro cell ⟨position, inner, otherInner, reaches, -⟩
  cases position with
  | zero => exact differ (reaches_zero_iff.mp reaches).1
  | succ position => exact differ (reaches_succ_iff.mp reaches).1

/-- What is computed if the outermost layers are of one kind: the outermost layers are compared, and
then the payloads if the headers agree. -/
theorem footprint_of_kind_eq (same : packet.kind = other.kind) :
    footprint chain otherChain packet other = compared chain otherChain packet other ∪
      { cell | packet.headerBytes? = other.headerBytes? ∧
        cell ∈ footprintInside chain otherChain packet other } := by
  ext cell
  constructor
  · rintro ⟨position, inner, otherInner, reaches, member⟩
    cases position with
    | zero =>
      obtain ⟨-, rfl, rfl⟩ := reaches_zero_iff.mp reaches
      exact .inl member
    | succ position =>
      obtain ⟨-, headers, payload, otherPayload, present, otherPresent, inside⟩ :=
        reaches_succ_iff.mp reaches
      exact .inr ⟨headers, payload, otherPayload, present, otherPresent, position, inner, otherInner,
        inside, member⟩
  · rintro (member | ⟨headers, payload, otherPayload, present, otherPresent, position, inner,
      otherInner, inside, member⟩)
    · exact ⟨0, packet, other, reaches_zero_iff.mpr ⟨same, rfl, rfl⟩, member⟩
    · exact ⟨position + 1, inner, otherInner,
        reaches_succ_iff.mpr ⟨same, headers, payload, otherPayload, present, otherPresent, inside⟩,
        member⟩

end Reaches

/-- Where the kinds of two packets of the library fit, both are raw data, or both have outermost
layers that are akin. -/
theorem Library.akin_of_accepts {packet other : Packet} (library : packet.Library)
    (otherLibrary : other.Library) (accepted : packet.kind.accepts other.kind = true) :
    (∃ data otherData, packet = .unknown data ∧ other = .unknown otherData) ∨
      ∃ layer otherLayer, packet.layer? = some layer ∧ other.layer? = some otherLayer ∧
        layer.Akin otherLayer := by
  cases outermost : packet.layer? with
  | none =>
    obtain ⟨data, rfl⟩ := Chain.eq_unknown_of_layer? outermost
    cases otherOutermost : other.layer? with
    | none =>
      obtain ⟨otherData, rfl⟩ := Chain.eq_unknown_of_layer? otherOutermost
      exact .inl ⟨data, otherData, rfl, rfl⟩
    | some otherLayer =>
      have known := otherLibrary.layer otherOutermost
      rw [kind_of_layer otherOutermost, Kind.accepts_iff_of_root (Layer.parent?_of_library known)]
        at accepted
      exact absurd accepted.symm (Layer.composed_of_library known).owner_ne_unknown
  | some layer =>
    have known := library.layer outermost
    cases otherOutermost : other.layer? with
    | none =>
      obtain ⟨otherData, rfl⟩ := Chain.eq_unknown_of_layer? otherOutermost
      rw [kind_of_layer outermost, Kind.accepts_iff_of_root rfl] at accepted
      exact absurd accepted (Layer.composed_of_library known).owner_ne_unknown
    | some otherLayer =>
      have otherKnown := otherLibrary.layer otherOutermost
      rw [kind_of_layer outermost, kind_of_layer otherOutermost,
        Kind.accepts_iff_of_root (Layer.parent?_of_library otherKnown)] at accepted
      exact .inr ⟨layer, otherLayer, rfl, rfl, Layer.akin_of_owner known otherKnown accepted⟩

/-- The kind of a packet of the library accepts that of another one only if it is the same. -/
theorem Library.accepts_iff {packet other : Packet} (library : packet.Library)
    (otherLibrary : other.Library) :
    packet.kind.accepts other.kind = true ↔ packet.kind = other.kind := by
  constructor
  · intro accepted
    rcases library.akin_of_accepts otherLibrary accepted with
      ⟨data, otherData, rfl, rfl⟩ | ⟨layer, otherLayer, outermost, otherOutermost, akin⟩
    · rfl
    · rw [kind_of_layer outermost, kind_of_layer otherOutermost, akin.kind_eq]
  · intro same
    rw [same]
    exact Kind.accepts_self _

end Packet

variable {canon : Canon Cell Cell.Value}

/-- The bytes of a header are computed in the cell for them alone. -/
theorem Header.readBytes_fills {object : Object} {header : Header}
    (denoted : header.Denoted canon object) :
    Fills canon (header.readBytes object) {⟨object, .bytes⟩} header.bytes := by
  have reported : Fills canon
      (Memo.Eval.emit (.bytesBuilt object header.kind header.bytes.length) >>= fun _ =>
        (pure header.bytes : Access Bytes)) ∅ header.bytes := (Fills.emit canon _).map _
  exact reported.resolve (denoted .bytes)

/-- The bytes of two headers are computed where headers of one kind are compared. -/
theorem Header.equals_fills {object otherObject : Object} {header other : Header}
    (denoted : header.Denoted canon object) (otherDenoted : other.Denoted canon otherObject)
    (distinct : object ≠ otherObject) (same : header.kind = other.kind) :
    Fills canon (header.equals object otherObject other)
      ({⟨object, .bytes⟩} ∪ {⟨otherObject, .bytes⟩}) (header.bytes == other.bytes) := by
  have accepted : header.kind.accepts other.kind = true := same ▸ Kind.accepts_self _
  have both : Fills canon
      (header.readBytes object >>= fun own => other.readBytes otherObject >>= fun others =>
        pure (own == others))
      ({⟨object, .bytes⟩} ∪ {⟨otherObject, .bytes⟩}) (header.bytes == other.bytes) :=
    (readBytes_fills denoted).bind ((readBytes_fills otherDenoted).map _)
  unfold equals
  simp only [if_neg distinct, accepted]
  exact both

namespace Packet

variable {chain otherChain : Nat} {packet other : Packet}

/-- The bytes of raw data are computed in the cell for them alone: the length that may be remembered
is the right one. -/
theorem data_fills {data : Bytes} (denoted : Packet.Denoted canon chain (.unknown data)) :
    Fills canon (readBytes chain (.unknown data)) {⟨.packet chain 1, .bytes⟩} data := by
  have reported : Fills canon
      (Memo.Eval.emit (.bytesBuilt (.packet chain 1) .unknown data.length) >>= fun _ =>
        (pure data : Access Bytes)) ∅ data := (Fills.emit canon _).map fun _ => data
  have built : Fills canon
      (Access.remember (.packet chain 1) .bytes
        ((pure data : Access Bytes) >>= fun built =>
          Memo.Eval.emit (.bytesBuilt (.packet chain 1) .unknown built.length) >>= fun _ =>
            pure built))
      {⟨.packet chain 1, .bytes⟩} data := reported.resolve (denoted.view .bytes)
  refine built.bind_idle fun computing middle coherent => ?_
  unfold Access.remembered
  rw [Memo.Eval.bind_apply, Memo.Eval.peek_apply]
  cases content : middle.bank.get? ⟨.packet chain 1, .length⟩ with
  | none => rfl
  | some length =>
    obtain rfl : length = data.length := coherent _ length _ content (denoted.view .length)
    simp only [if_true]
    rfl

/-- Two layers with headers are compared by the bytes of these. -/
theorem compared_of_headers (known : packet.kind ≠ .unknown)
    (headed : packet.header?.isSome = true) (otherHeaded : other.header?.isSome = true) :
    compared chain otherChain packet other =
      {⟨packet.headerObject chain, .bytes⟩} ∪ {⟨other.headerObject otherChain, .bytes⟩} := by
  ext ⟨object, view⟩
  constructor
  · rintro ⟨rfl, ⟨-, -, rfl | rfl⟩ | ⟨unknown, -⟩⟩
    · exact .inl rfl
    · exact .inr rfl
    · exact absurd unknown known
  · rintro (same | same)
    · obtain ⟨rfl, rfl⟩ := Cell.mk.inj same
      exact ⟨rfl, .inl ⟨headed, otherHeaded, .inl rfl⟩⟩
    · obtain ⟨rfl, rfl⟩ := Cell.mk.inj same
      exact ⟨rfl, .inl ⟨headed, otherHeaded, .inr rfl⟩⟩

/-- Two packets of raw data are compared by their bytes. -/
theorem compared_of_data (data otherData : Bytes) :
    compared chain otherChain (.unknown data) (.unknown otherData) =
      {⟨.packet chain 1, .bytes⟩} ∪ {⟨.packet otherChain 1, .bytes⟩} := by
  ext ⟨object, view⟩
  constructor
  · rintro ⟨rfl, ⟨headed, -⟩ | ⟨-, rfl | rfl⟩⟩
    · cases headed
    · exact .inl rfl
    · exact .inr rfl
  · rintro (same | same)
    · obtain ⟨rfl, rfl⟩ := Cell.mk.inj same
      exact ⟨rfl, .inr ⟨rfl, .inl rfl⟩⟩
    · obtain ⟨rfl, rfl⟩ := Cell.mk.inj same
      exact ⟨rfl, .inr ⟨rfl, .inr rfl⟩⟩

/-- Where one of two packets has no payload, nothing is computed of payloads. -/
theorem footprintInside_of_none (none : packet.payload? = none ∨ other.payload? = none) :
    footprintInside chain otherChain packet other = ∅ := by
  refine Set.eq_empty_of_forall_notMem ?_
  rintro cell ⟨payload, otherPayload, present, otherPresent, -⟩
  rcases none with absent | absent
  · cases absent.symm.trans present
  · cases absent.symm.trans otherPresent

/-- What is computed of the payloads of two layers is what is computed where these are compared. -/
theorem footprintInside_wrap (layer otherLayer : Layer) (payload otherPayload : Packet) :
    footprintInside chain otherChain (.wrap layer payload) (.wrap otherLayer otherPayload) =
      footprint chain otherChain payload otherPayload := by
  ext cell
  constructor
  · rintro ⟨inner, otherInner, present, otherPresent, member⟩
    obtain rfl : payload = inner := Option.some.inj present
    obtain rfl : otherPayload = otherInner := Option.some.inj otherPresent
    exact member
  · intro member
    exact ⟨payload, otherPayload, rfl, rfl, member⟩

/-- A comparison of layers of which the kinds fit computes the bytes of both headers, and tells
whether these agree. -/
theorem headersEqual_fills {layer otherLayer : Layer} (outermost : packet.layer? = some layer)
    (otherOutermost : other.layer? = some otherLayer) (akin : layer.Akin otherLayer)
    (denoted : packet.Denoted canon chain) (otherDenoted : other.Denoted canon otherChain)
    (apart : packet.headerObject chain ≠ other.headerObject otherChain) :
    ∃ equal : Bool, (equal = true ↔ packet.headerBytes? = other.headerBytes?) ∧
      Fills canon
        (layer.headersEqual (packet.headerObject chain) (other.headerObject otherChain)
          other.header?)
        (compared chain otherChain packet other) equal := by
  obtain ⟨header, otherHeader, present, otherPresent, kinds⟩ := akin.headers
  have own := (header?_of_layer outermost).trans present
  have others := (header?_of_layer otherOutermost).trans otherPresent
  have known : packet.kind ≠ .unknown := by
    rw [kind_of_layer outermost]
    exact fun same => akin.composed.1.owner_ne_unknown (congrArg Kind.owner same)
  refine ⟨header.bytes == otherHeader.bytes, ?_, ?_⟩
  · rw [headerBytes?, headerBytes?, own, others, Option.map_some, Option.map_some, beq_iff_eq,
      Option.some_inj]
  · rw [compared_of_headers known (by rw [own]; rfl) (by rw [others]; rfl), others]
    unfold Layer.headersEqual
    simp only [present]
    exact Header.equals_fills (denoted.header own) (otherDenoted.header others) apart kinds

/-- After the headers, the payloads are compared if the headers agree. -/
theorem payloads_fill {layer : Layer} {payloads : Access Bool} {verdict : Bool} {cells : Set Cell}
    {agree : Prop} (inside : Fills canon payloads cells verdict) (equal : Bool)
    (same : equal = true ↔ agree) :
    ∃ verdict, Fills canon
      (if (!equal) = true then pure false
        else payloads >>= fun payloads => pure (payloads && layer.trailerMatches other))
      { cell | agree ∧ cell ∈ cells } verdict := by
  cases equal with
  | false =>
    have nothing : { cell | agree ∧ cell ∈ cells } = ∅ :=
      Set.eq_empty_of_forall_notMem fun cell both => Bool.false_ne_true (same.mpr both.1)
    rw [nothing]
    exact ⟨false, .pure canon false⟩
  | true =>
    have all : { cell | agree ∧ cell ∈ cells } = cells :=
      Set.ext fun cell => and_iff_right (same.mp rfl)
    rw [all]
    exact ⟨_, inside.map _⟩

/-- A comparison of a layer of the library with a packet of the library computes what there is to
compute, if the comparison of the payloads does. -/
theorem equalsAround_fills {layer : Layer} {payloadEquals : Option Packet → Access Bool}
    (outermost : packet.layer? = some layer) (library : packet.Library)
    (otherLibrary : other.Library) (denoted : packet.Denoted canon chain)
    (otherDenoted : other.Denoted canon otherChain)
    (apart : packet.object chain ≠ other.object otherChain)
    (payloads : ∃ verdict, Fills canon (payloadEquals other.payload?)
      (footprintInside chain otherChain packet other) verdict) :
    ∃ verdict, Fills canon (layer.equalsAround chain packet.depth otherChain other payloadEquals)
      (footprint chain otherChain packet other) verdict := by
  have separate : Object.packet chain packet.depth ≠ other.object otherChain := apart
  have distinct : packet.headerObject chain ≠ other.headerObject otherChain := by
    intro together
    apply apart
    simpa [headerObject, object] using together
  have kind := kind_of_layer outermost
  have fits := library.accepts_iff otherLibrary
  rw [kind] at fits
  unfold Layer.equalsAround
  rw [if_neg separate]
  by_cases same : layer.kind = other.kind
  · rw [footprint_of_kind_eq (kind.trans same)]
    simp only [fits.mpr same]
    rcases library.akin_of_accepts otherLibrary (by rw [kind, fits]; exact same) with
      ⟨data, otherData, rfl, rfl⟩ | ⟨found, otherLayer, known, otherOutermost, akin⟩
    · cases outermost
    · obtain rfl : layer = found := Option.some.inj (outermost.symm.trans known)
      obtain ⟨equal, agree, headers⟩ :=
        headersEqual_fills outermost otherOutermost akin denoted otherDenoted distinct
      obtain ⟨verdict, inside⟩ := payloads
      obtain ⟨result, onward⟩ := payloads_fill inside equal agree
      exact ⟨result, headers.bind onward⟩
  · have refused : layer.kind.accepts other.kind = false :=
      Bool.eq_false_iff.mpr fun accepted => same (fits.mp accepted)
    rw [footprint_of_kind_ne (by rwa [kind])]
    simp only [refused]
    exact ⟨false, .pure canon false⟩

/-- A comparison of raw data with raw data computes the bytes of both. -/
theorem data_equals_fills {data otherData : Bytes}
    (denoted : Packet.Denoted canon chain (.unknown data))
    (otherDenoted : Packet.Denoted canon otherChain (.unknown otherData)) :
    Fills canon (equals chain otherChain (.unknown data) (.unknown otherData))
      (footprint chain otherChain (.unknown data) (.unknown otherData)) (data == otherData) := by
  have cells : footprint chain otherChain (.unknown data) (.unknown otherData) =
      {⟨.packet chain 1, .bytes⟩} ∪ {⟨.packet otherChain 1, .bytes⟩} := by
    have kinds : Chain.kind (.unknown data : Packet) = Chain.kind (.unknown otherData : Packet) := rfl
    have nothing : footprintInside chain otherChain (.unknown data) (.unknown otherData) = ∅ :=
      footprintInside_of_none (.inl rfl)
    rw [footprint_of_kind_eq kinds, compared_of_data, nothing]
    simp
  have both : Fills canon
      (readBytes chain (.unknown data) >>= fun own =>
        readBytes otherChain (.unknown otherData) >>= fun others => pure (own == others))
      ({⟨.packet chain 1, .bytes⟩} ∪ {⟨.packet otherChain 1, .bytes⟩}) (data == otherData) :=
    (data_fills denoted).bind ((data_fills otherDenoted).map _)
  rw [cells]
  exact both

/-- A comparison of two packets of the library that are not one object computes what it reaches, and
returns. -/
theorem equals_fills (library : packet.Library) (otherLibrary : other.Library)
    (denoted : packet.Denoted canon chain) (otherDenoted : other.Denoted canon otherChain)
    (apart : packet.object chain ≠ other.object otherChain) :
    ∃ verdict, Fills canon (equals chain otherChain packet other)
      (footprint chain otherChain packet other) verdict := by
  induction packet generalizing other with
  | unknown data =>
    by_cases accepted : Kind.unknown.accepts other.kind = true
    · rcases library.akin_of_accepts otherLibrary accepted with
        ⟨_, otherData, -, rfl⟩ | ⟨layer, otherLayer, outermost, -, -⟩
      · exact ⟨data == otherData, data_equals_fills denoted otherDenoted⟩
      · cases outermost
    · have differ : Chain.kind (.unknown data : Packet) ≠ other.kind :=
        fun same => accepted ((library.accepts_iff otherLibrary).mpr same)
      rw [footprint_of_kind_ne differ]
      unfold equals
      simp only [Bool.eq_false_iff.mpr accepted]
      exact ⟨false, .pure canon false⟩
  | bare layer =>
    refine equalsAround_fills rfl library otherLibrary denoted otherDenoted apart ?_
    rw [footprintInside_of_none (.inl rfl)]
    cases other.payload? <;> exact ⟨_, .pure canon _⟩
  | wrap layer payload ih =>
    refine equalsAround_fills rfl library otherLibrary denoted otherDenoted apart ?_
    cases other with
    | unknown data | bare otherLayer =>
      rw [footprintInside_of_none (.inr rfl)]
      exact ⟨false, .pure canon false⟩
    | wrap otherLayer otherPayload =>
      have inside : object chain payload ≠ object otherChain otherPayload := by
        intro same
        apply apart
        simpa [object, Chain.depth] using same
      rw [footprintInside_wrap]
      exact ih library.2 otherLibrary.2 denoted.payload otherDenoted.payload inside

end Packet

end Encapsulation
