import Encapsulation.Access.Equality
import Encapsulation.Proofs.Access.Packet
import Encapsulation.Proofs.Kind.Order

/-!
# Contracts of equality

Equality by the fields alone, `Packet.plainEquals`, follows the same steps as the access and asks
for no cell. The access returns it whatever is remembered, and fails only where raw data is
compared with a packet whose bytes are not ready: no other step of a comparison asks for the bytes
of a packet.
-/
namespace Encapsulation

open Memo (Canon Bank)
open Memo.Eval (Meets)

/-- Whether a header equals another one by its fields: its kind accepts the other's, and the bytes
agree. -/
def Header.plainEquals (header other : Header) : Bool :=
  header.kind.accepts other.kind && header.bytes == other.bytes

/-- A header equals itself. -/
theorem Header.plainEquals_self (header : Header) : header.plainEquals header = true := by
  simp [plainEquals, Kind.accepts_self]

namespace Layer

/-- Whether the header of a layer equals that of another packet by the fields. -/
def plainHeadersEqual (layer : Layer) (other : Option Header) : Bool :=
  match layer.header?, other with
  | none, none => true
  | some header, some otherHeader => header.plainEquals otherHeader
  | _, _ => false

/-- Whether a layer around some payload equals another packet by the fields, when `payloadEquals`
compares the payload. -/
def plainEqualsAround (layer : Layer) (other : Packet) (payloadEquals : Option Packet → Bool) :
    Bool :=
  layer.kind.accepts other.kind && layer.plainHeadersEqual other.header? &&
    (payloadEquals other.payload? && layer.trailerMatches other)

end Layer

namespace Packet

/-- Whether a packet equals another one by the fields. -/
def plainEquals : Packet → Packet → Bool
  | .unknown data, other => Kind.unknown.accepts other.kind && data == other.plainBytes
  | .bare layer, other =>
    layer.plainEqualsAround other fun
      | none => true
      | some _ => false
  | .wrap layer payload, other =>
    layer.plainEqualsAround other fun
      | none => false
      | some otherPayload => plainEquals payload otherPayload

/-- A packet equals one of the same fields, its own among them. -/
theorem plainEquals_self (packet : Packet) : packet.plainEquals packet = true := by
  have headers : ∀ layer : Layer, layer.plainHeadersEqual layer.header? = true := by
    intro layer
    unfold Layer.plainHeadersEqual
    cases layer.header? with
    | none => rfl
    | some header => exact header.plainEquals_self
  have trailers : ∀ (layer : Layer) (packet : Packet), packet.layer? = some layer →
      layer.trailerMatches packet = true := by
    intro layer packet outermost
    unfold Layer.trailerMatches
    cases layer <;> simp [pad?, outermost]
  induction packet with
  | unknown data => simp [plainEquals, Chain.kind, Kind.accepts_self, plainBytes]
  | bare layer =>
    have trailer := trailers layer (.bare layer) rfl
    simp [plainEquals, Layer.plainEqualsAround, Chain.kind, Layered.kind, Kind.accepts_self,
      header?, Chain.layer?, Chain.payload?, headers, trailer]
  | wrap layer payload ih =>
    have trailer := trailers layer (.wrap layer payload) rfl
    simp [plainEquals, Layer.plainEqualsAround, Chain.kind, Layered.kind, Kind.accepts_self,
      header?, Chain.layer?, Chain.payload?, headers, trailer, ih]

/-- A comparison returns: where it comes to raw data on the side that is asked, the bytes on the
other side can be had. -/
def EqualsReady (otherChain : Nat) (bank : Bank Cell Cell.Value) : Packet → Packet → Prop
  | .unknown _, other => Kind.unknown.accepts other.kind = true → other.BytesReady otherChain bank
  | .bare _, _ => True
  | .wrap layer payload, other =>
    layer.kind.accepts other.kind = true → layer.plainHeadersEqual other.header? = true →
      ∀ otherPayload : Packet, other.payload? = some otherPayload →
        EqualsReady otherChain bank payload otherPayload

/-- A comparison with a packet of the same fields returns: raw data only meets raw data. -/
theorem equalsReady_self (otherChain : Nat) (bank : Bank Cell Cell.Value) (packet : Packet) :
    packet.EqualsReady otherChain bank packet := by
  induction packet with
  | unknown data => exact fun _ => trivial
  | bare layer => trivial
  | wrap layer payload ih =>
    intro _ _ otherPayload inside
    obtain rfl : payload = otherPayload := by simpa [Chain.payload?] using inside
    exact ih

/-- Whether a comparison returns does not change while only cells are filled that are not looked
at. -/
theorem equalsReady_congr {otherChain : Nat} {left right : Bank Cell Cell.Value}
    (packet other : Packet) (alike : Alike otherChain other.depth left right) :
    packet.EqualsReady otherChain left other ↔ packet.EqualsReady otherChain right other := by
  induction packet generalizing other with
  | unknown data => simp only [EqualsReady, bytesReady_congr other alike]
  | bare layer => exact Iff.rfl
  | wrap layer payload ih =>
    simp only [EqualsReady]
    have inside : ∀ otherPayload : Packet, other.payload? = some otherPayload →
        (EqualsReady otherChain left payload otherPayload ↔
          EqualsReady otherChain right payload otherPayload) := by
      intro otherPayload present
      apply ih otherPayload (alike.mono _)
      cases other with
      | unknown data => cases present
      | bare layer => cases present
      | wrap layer payload =>
        obtain rfl : payload = otherPayload := by simpa [Chain.payload?] using present
        exact Nat.le_succ _
    constructor
    · intro fit kinds headers otherPayload present
      exact (inside otherPayload present).mp (fit kinds headers otherPayload present)
    · intro fit kinds headers otherPayload present
      exact (inside otherPayload present).mpr (fit kinds headers otherPayload present)

end Packet

variable {canon : Canon Cell Cell.Value} {region : Set Cell}
  {fault : Fault → Bank Cell Cell.Value → Prop}

/-- A comparison of headers always returns what their fields say, and fills at most their cells
for bytes. -/
theorem Header.equals_meets {object otherObject : Object} {header other : Header}
    (denoted : header.Denoted canon object) (otherDenoted : other.Denoted canon otherObject)
    (within : object.cells 1 ∪ otherObject.cells 1 ⊆ region)
    (identity : object = otherObject → header = other) :
    Meets canon (header.equals object otherObject other)
      ⟨region, fun _ => True, fault, header.plainEquals other⟩ := by
  unfold Header.equals Header.plainEquals
  by_cases same : object = otherObject
  · subst same
    obtain rfl := identity rfl
    simpa [Kind.accepts_self] using Meets.pure region fault true
  · rw [if_neg same]
    cases accepted : header.kind.accepts other.kind with
    | false => exact .pure region fault false
    | true =>
      have own : Meets canon (header.readBytes object)
          ⟨object.cells 1, fun _ => True, fault, header.bytes⟩ :=
        header.readBytes_meets denoted Nat.zero_lt_one
      have others : Meets canon (other.readBytes otherObject)
          ⟨region, fun _ => True, fault, other.bytes⟩ :=
        (other.readBytes_meets otherDenoted Nat.zero_lt_one).widen
          (Set.subset_union_right.trans within)
      have both : Meets canon
          (header.readBytes object >>= fun own => other.readBytes otherObject >>= fun others =>
            pure (own == others))
          ⟨region, fun _ => True, fault, header.bytes == other.bytes⟩ :=
        own.bind_ready (Set.subset_union_left.trans within)
          (others.bind_pure (.pure _ _ _)) fun _ _ _ => Iff.rfl
      simpa using both

/-- A comparison of the headers of two layers always returns what their fields say. -/
theorem Layer.headersEqual_meets {object otherObject : Object} {layer : Layer}
    {other : Option Header}
    (denoted : ∀ header, layer.header? = some header → header.Denoted canon object)
    (otherDenoted : ∀ header, other = some header → header.Denoted canon otherObject)
    (within : object.cells 1 ∪ otherObject.cells 1 ⊆ region) (distinct : object ≠ otherObject) :
    Meets canon (layer.headersEqual object otherObject other)
      ⟨region, fun _ => True, fault, layer.plainHeadersEqual other⟩ := by
  unfold headersEqual plainHeadersEqual
  cases present : layer.header? with
  | none => cases other <;> exact .pure region fault _
  | some header =>
    cases other with
    | none => exact .pure region fault false
    | some otherHeader =>
      exact Header.equals_meets (denoted header present) (otherDenoted otherHeader rfl) within
        fun same => absurd same distinct

namespace Packet

/-- Two packets of one numbered chain lie in one packet. -/
def Kin (chain otherChain : Nat) (packet other : Packet) : Prop :=
  chain = otherChain → ∃ root : Packet, packet ∈ root.walk ∧ other ∈ root.walk

/-- Two packets that are one object are one packet. -/
theorem Kin.eq_of_object_eq {chain otherChain : Nat} {packet other : Packet}
    (kin : Kin chain otherChain packet other)
    (same : packet.object chain = other.object otherChain) : packet = other := by
  obtain ⟨rfl, depths⟩ : chain = otherChain ∧ packet.depth = other.depth := by
    simpa [object] using same
  obtain ⟨root, member, otherMember⟩ := kin rfl
  exact Chain.eq_of_mem_walk member otherMember depths

/-- The payloads of two packets that lie in one packet lie in it as well. -/
theorem Kin.payload {chain otherChain : Nat} {layer otherLayer : Layer}
    {payload otherPayload : Packet}
    (kin : Kin chain otherChain (.wrap layer payload) (.wrap otherLayer otherPayload)) :
    Kin chain otherChain payload otherPayload := by
  intro same
  obtain ⟨root, member, otherMember⟩ := kin same
  exact ⟨root, Chain.mem_walk_trans member (Chain.mem_walk_wrap payload.mem_walk_self),
    Chain.mem_walk_trans otherMember (Chain.mem_walk_wrap otherPayload.mem_walk_self)⟩

variable {chain otherChain : Nat}

/-- After the headers, the payloads are compared only if the headers are equal. -/
theorem trailers_meets {layer : Layer} {other : Packet} {payloads : Access Bool} {plain : Bool}
    {ready : Bank Cell Cell.Value → Prop}
    (compared : Meets canon payloads ⟨region, ready, fault, plain⟩) (headers : Bool) :
    Meets canon
      (if (!headers) = true then pure false
        else payloads >>= fun equal => pure (equal && layer.trailerMatches other))
      ⟨region, fun bank => headers = true → ready bank, fault,
        headers && (plain && layer.trailerMatches other)⟩ := by
  cases headers with
  | false => exact .pure_of_forall (fun _ => by simp) false
  | true =>
    have matched : Meets canon
        (payloads >>= fun equal => pure (equal && layer.trailerMatches other))
        ⟨region, ready, fault, plain && layer.trailerMatches other⟩ :=
      compared.bind_pure (.pure region fault _)
    exact matched.retell fun _ _ => by simp

/-- A comparison of a layer with a packet returns what the fields say, if the comparison of the
payload does. -/
theorem equalsAround_meets {packet other : Packet} {layer : Layer}
    {payloadEquals : Option Packet → Access Bool} {plain : Option Packet → Bool}
    {ready : Bank Cell Cell.Value → Prop} (outermost : packet.layer? = some layer)
    (denoted : packet.Denoted canon chain) (otherDenoted : other.Denoted canon otherChain)
    (within : reach chain packet.depth 1 ∪ reach otherChain other.depth 1 ⊆ region)
    (payloads : Meets canon (payloadEquals other.payload?)
      ⟨region, ready, fault, plain other.payload?⟩)
    (stable : ∀ before after : Memory,
      before.Advances
        ((packet.headerObject chain).cells 1 ∪ (other.headerObject otherChain).cells 1) after →
      (ready after.bank ↔ ready before.bank))
    (self : Object.packet chain packet.depth = other.object otherChain →
      layer.plainEqualsAround other plain = true ∧ ∀ bank, ready bank) :
    Meets canon (layer.equalsAround chain packet.depth otherChain other payloadEquals)
      ⟨region,
        fun bank => layer.kind.accepts other.kind = true →
          layer.plainHeadersEqual other.header? = true → ready bank,
        fault, layer.plainEqualsAround other plain⟩ := by
  unfold Layer.equalsAround
  by_cases same : Object.packet chain packet.depth = other.object otherChain
  · obtain ⟨equal, always⟩ := self same
    rw [if_pos same, equal]
    exact .pure_of_forall (fun bank => by simp [always bank]) true
  · rw [if_neg same]
    unfold Layer.plainEqualsAround
    cases accepted : layer.kind.accepts other.kind with
    | false =>
      exact .pure_of_forall (fun _ => by simp) false
    | true =>
      have distinct : packet.headerObject chain ≠ other.headerObject otherChain := by
        intro together
        apply same
        simpa [headerObject, object] using together
      have headerCells :
          (packet.headerObject chain).cells 1 ∪ (other.headerObject otherChain).cells 1 ⊆ region :=
        (Set.union_subset_union (header_cells_subset chain packet.depth 1 1)
          (header_cells_subset otherChain other.depth 1 1)).trans within
      have headers : Meets canon
          (layer.headersEqual (packet.headerObject chain) (other.headerObject otherChain)
            other.header?)
          ⟨(packet.headerObject chain).cells 1 ∪ (other.headerObject otherChain).cells 1,
            fun _ => True, fault, layer.plainHeadersEqual other.header?⟩ :=
        layer.headersEqual_meets
          (fun header present => denoted.header ((header?_of_layer outermost).trans present))
          (fun header present => otherDenoted.header present) subset_rfl distinct
      have compared : Meets canon
          (layer.headersEqual (packet.headerObject chain) (other.headerObject otherChain)
              other.header? >>= fun headers =>
            if (!headers) = true then pure false
            else payloadEquals other.payload? >>= fun payloads =>
              pure (payloads && layer.trailerMatches other))
          ⟨region, fun bank => layer.plainHeadersEqual other.header? = true → ready bank, fault,
            layer.plainHeadersEqual other.header? &&
              (plain other.payload? && layer.trailerMatches other)⟩ :=
        headers.bind_ready headerCells (trailers_meets payloads _) fun before after advance => by
          simp only [stable before after advance]
      exact compared.retell fun _ _ => by simp

/-- Raw data is compared with a packet by the bytes of both, once the kinds allow it. -/
theorem unknown_equals_meets {data : Bytes} {other : Packet}
    (denoted : Packet.Denoted canon chain (.unknown data))
    (otherDenoted : other.Denoted canon otherChain)
    (within : reach chain 1 1 ∪ reach otherChain other.depth 1 ⊆ region) :
    Meets canon (equals chain otherChain (.unknown data) other)
      ⟨region, (EqualsReady otherChain · (.unknown data) other), other.Faulty otherChain,
        plainEquals (.unknown data) other⟩ := by
  unfold equals
  cases accepted : Kind.unknown.accepts other.kind with
  | false =>
    have unlike : plainEquals (.unknown data) other = false := by simp [plainEquals, accepted]
    rw [unlike]
    exact .pure_of_forall (fun _ => by simp [EqualsReady, accepted]) false
  | true =>
    have own : Meets canon (readBytes chain (.unknown data))
        ⟨reach chain 1 1, fun _ => True, other.Faulty otherChain, data⟩ := data_meets denoted
    have others : Meets canon (readBytes otherChain other)
        ⟨region, (other.BytesReady otherChain ·), other.Faulty otherChain, other.plainBytes⟩ :=
      (readBytes_meets otherDenoted).widen (Set.subset_union_right.trans within)
    have both : Meets canon
        (readBytes chain (.unknown data) >>= fun own =>
          readBytes otherChain other >>= fun others => pure (own == others))
        ⟨region, (other.BytesReady otherChain ·), other.Faulty otherChain,
          data == other.plainBytes⟩ :=
      own.bind_ready (Set.subset_union_left.trans within) (others.bind_pure (.pure _ _ _))
        fun before after advance => bytesReady_congr other (.of_spares advance
          (fun inner positive _ member => by
            simp only [packet_mem_reach, View.level] at member
            omega)
          (fun inner around _ member => by
            simp only [packet_mem_reach, View.level] at member
            omega))
    have compared : plainEquals (.unknown data) other = (data == other.plainBytes) := by
      simp [plainEquals, accepted]
    rw [compared]
    exact both.retell fun _ _ => by simp [EqualsReady, accepted]

/-- A comparison of headers does not change whether packets can be compared. -/
theorem equalsReady_of_header_cells {left right packet other : Packet} {before after : Memory}
    (advance : before.Advances
      ((left.headerObject chain).cells 1 ∪ (right.headerObject otherChain).cells 1) after) :
    packet.EqualsReady otherChain after.bank other ↔
      packet.EqualsReady otherChain before.bank other := by
  have apart : ∀ inner view, Cell.mk (.packet otherChain inner) view ∉
      (left.headerObject chain).cells 1 ∪ (right.headerObject otherChain).cells 1 := by
    intro inner view
    simp [headerObject]
  exact equalsReady_congr packet other (.of_spares advance
    (fun inner _ _ => apart inner .length) fun inner _ _ => apart inner .bytes)

/-- A comparison returns what the fields say from the banks in which it is ready. -/
theorem equals_meets {packet other : Packet} (denoted : packet.Denoted canon chain)
    (otherDenoted : other.Denoted canon otherChain) (kin : Kin chain otherChain packet other)
    (within : reach chain packet.depth 1 ∪ reach otherChain other.depth 1 ⊆ region) :
    Meets canon (equals chain otherChain packet other)
      ⟨region, (packet.EqualsReady otherChain · other), other.Faulty otherChain,
        packet.plainEquals other⟩ := by
  induction packet generalizing other with
  | unknown data => exact unknown_equals_meets denoted otherDenoted within
  | bare layer =>
    have compared : Meets canon (equals chain otherChain (.bare layer) other)
        ⟨region,
          fun _ => layer.kind.accepts other.kind = true →
            layer.plainHeadersEqual other.header? = true → True,
          other.Faulty otherChain, plainEquals (.bare layer) other⟩ := by
      refine equalsAround_meets rfl denoted otherDenoted within ?payloads (fun _ _ _ => Iff.rfl)
        fun same => ?self
      case payloads => cases other.payload? <;> exact .pure region _ _
      case self =>
        obtain rfl := kin.eq_of_object_eq same
        exact ⟨plainEquals_self (.bare layer), fun _ => trivial⟩
    exact compared.retell fun _ _ => by simp [EqualsReady]
  | wrap layer payload ih =>
    refine equalsAround_meets rfl denoted otherDenoted within ?payloads ?stable fun same => ?self
    case payloads =>
      cases other with
      | unknown data =>
        exact .pure_of_forall (fun _ => by simp [Chain.payload?]) false
      | bare otherLayer =>
        exact .pure_of_forall (fun _ => by simp [Chain.payload?]) false
      | wrap otherLayer otherPayload =>
        have inside :
            reach chain payload.depth 1 ∪ reach otherChain otherPayload.depth 1 ⊆ region :=
          (Set.union_subset_union
            ((reach_succ chain payload.depth 1).trans (reach_mono chain _ (Nat.zero_le 1)))
            ((reach_succ otherChain otherPayload.depth 1).trans
              (reach_mono otherChain _ (Nat.zero_le 1)))).trans within
        exact (ih denoted.payload otherDenoted.payload kin.payload inside).weaken subset_rfl
          (fun _ _ => by simp [Chain.payload?]) fun _ _ blame => blame.wrap
    case stable =>
      intro before after advance
      exact forall_congr' fun otherPayload => imp_congr_right fun _ =>
        equalsReady_of_header_cells advance
    case self =>
      obtain rfl := kin.eq_of_object_eq same
      refine ⟨plainEquals_self (.wrap layer payload), fun bank otherPayload present => ?_⟩
      obtain rfl : payload = otherPayload := by simpa [Chain.payload?] using present
      exact equalsReady_self otherChain bank payload

/-- Whether the header of a packet equals that of another one by the fields. -/
def plainHeaderEquals? (packet other : Packet) : Option Bool :=
  match packet.header?, other.header? with
  | some header, some otherHeader => some (header.plainEquals otherHeader)
  | _, _ => none

/-- A comparison of the headers of two packets always returns what their fields say. -/
theorem headerEquals?_meets {packet other : Packet} (denoted : packet.Denoted canon chain)
    (otherDenoted : other.Denoted canon otherChain) (kin : Kin chain otherChain packet other)
    (within : (packet.headerObject chain).cells 1 ∪ (other.headerObject otherChain).cells 1 ⊆
      region) :
    Meets canon (headerEquals? chain packet otherChain other)
      ⟨region, fun _ => True, fault, packet.plainHeaderEquals? other⟩ := by
  unfold headerEquals? plainHeaderEquals?
  cases present : packet.header? with
  | none => exact .pure region fault none
  | some header =>
    cases otherPresent : other.header? with
    | none => exact .pure region fault none
    | some otherHeader =>
      have identity : packet.headerObject chain = other.headerObject otherChain →
          header = otherHeader := by
        intro same
        have packets : packet = other :=
          kin.eq_of_object_eq (by simpa [headerObject, object] using same)
        rw [packets] at present
        exact Option.some.inj (present.symm.trans otherPresent)
      have compared : Meets canon
          (header.equals (packet.headerObject chain) (other.headerObject otherChain) otherHeader)
          ⟨region, fun _ => True, fault, header.plainEquals otherHeader⟩ :=
        Header.equals_meets (denoted.header present) (otherDenoted.header otherPresent) within
          identity
      simp only [map_eq_pure_bind]
      exact compared.bind_pure (.pure region fault _)

end Packet

end Encapsulation
