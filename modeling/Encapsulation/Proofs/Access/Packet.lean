import Encapsulation.Proofs.Access.Header
import Encapsulation.Proofs.Access.Readiness

/-!
# Contracts of packet views

Every view of a packet returns its meaning exactly from the banks in which it is ready, touches the
cells of its own chain from its layer inwards only, and never asks for a cell that is being
computed. It fails only where the bytes of some layer inwards are not as many as the length that
the layer remembers, or where some length inwards does not fit.
-/
namespace Encapsulation

open Memo (Canon Bank)
open Memo.Eval (Meets)

/-- What an access to a packet may fail for: some layer inwards remembers bytes and a length that
differ in number, or has a length that does not fit. -/
def Packet.Faulty (chain : Nat) (packet : Packet) (fault : Fault) (bank : Bank Cell Cell.Value) :
    Prop :=
  ∃ inner : Packet, inner ∈ packet.walk ∧
    match fault with
    | .mismatch kind counted remembered =>
      inner.kind = kind ∧ counted ≠ remembered ∧
        (∃ bytes : Bytes,
          bank.get? ⟨inner.object chain, .bytes⟩ = some bytes ∧ bytes.length = counted) ∧
        bank.get? ⟨inner.object chain, .length⟩ = some remembered
    | .overflow => UInt64.size ≤ inner.plainLength

/-- What fails inside a payload fails inside the layer around it. -/
theorem Packet.Faulty.wrap {chain : Nat} {layer : Layer} {payload : Packet} {fault : Fault}
    {bank : Bank Cell Cell.Value} (faulty : payload.Faulty chain fault bank) :
    Packet.Faulty chain (.wrap layer payload) fault bank := by
  obtain ⟨inner, member, blame⟩ := faulty
  exact ⟨inner, Chain.mem_walk_wrap member, blame⟩

variable {canon : Canon Cell Cell.Value} {region : Set Cell}
  {fault : Fault → Bank Cell Cell.Value → Prop}

/-- Two lengths are added if their sum fits. -/
theorem Access.addLengths_meets (region : Set Cell) {first second : Nat}
    (excess : UInt64.size ≤ first + second → ∀ bank, fault .overflow bank) :
    Meets canon (Access.addLengths first second)
      ⟨region, fun _ => first + second < UInt64.size, fault, first + second⟩ := by
  intro computing state _ coherent
  refine ⟨state, .refl region state, coherent, ?_⟩
  by_cases fits : first + second < UInt64.size
  · exact .inl ⟨fits, Access.addLengths_of_lt fits computing state⟩
  · have large : UInt64.size ≤ first + second := Nat.le_of_not_lt fits
    exact .inr ⟨fits, .overflow, [], Access.addLengths_of_le large computing state,
      excess large state.bank, by simp⟩

namespace Layer

variable {layer : Layer} {object : Object}

/-- What is taken from the header of a layer is always had, and only the cells of the header are
touched. -/
theorem withHeader_meets {α : Type} {absent : α} {view : Object → Header → Access α}
    {shown : Header → α}
    (denoted : ∀ header, layer.header? = some header → header.Denoted canon object)
    (met : ∀ header, header.Denoted canon object →
      Meets canon (view object header) ⟨object.cells 4, fun _ => True, fault, shown header⟩) :
    Meets canon (layer.withHeader object absent view)
      ⟨object.cells 4, fun _ => True, fault,
        match layer.header? with
        | some header => shown header
        | none => absent⟩ := by
  unfold withHeader
  cases present : layer.header? with
  | none => exact .pure _ _ absent
  | some header => exact met header (denoted header present)

/-- The bytes of a layer are had if they are replaced or those of the payload are had. -/
theorem bytesAround_meets {payloadBytes : Access Bytes} {payload : Bytes}
    {ready : Bank Cell Cell.Value → Prop}
    (denoted : ∀ header, layer.header? = some header → header.Denoted canon object)
    (within : object.cells 4 ⊆ region)
    (inside : Meets canon payloadBytes ⟨region, ready, fault, payload⟩)
    (stable : ∀ before after : Memory, before.Advances (object.cells 4) after →
      (ready after.bank ↔ ready before.bank)) :
    Meets canon (layer.bytesAround object payloadBytes)
      ⟨region, fun bank => layer.replacement?.isSome = true ∨ ready bank, fault,
        layer.plainBytes payload⟩ := by
  unfold bytesAround plainBytes
  cases replaced : layer.replacement? with
  | some replacement =>
    exact .pure_of_forall (fun _ => by simp) replacement
  | none =>
    have header : Meets canon (layer.withHeader object [] Header.readBytes)
        ⟨object.cells 4, fun _ => True, fault, layer.headerBytes⟩ :=
      withHeader_meets denoted fun header known => header.readBytes_meets known (by decide)
    have composed : Meets canon
        (layer.withHeader object [] Header.readBytes >>= fun before =>
          payloadBytes >>= fun inside => pure (before ++ inside ++ layer.pad))
        ⟨region, ready, fault, layer.headerBytes ++ payload ++ layer.pad⟩ :=
      header.bind_ready within (inside.bind_pure (.pure _ _ _)) stable
    exact composed.retell fun _ _ => by simp

/-- When the length of a layer is had, by the rule of the layer: a sum has to fit, and the number
of bytes needs the bytes. -/
def LengthFollows (layer : Layer) (payload : Nat) (payloadReady ownReady : Prop) : Prop :=
  match layer.lengthRule with
  | .composed => payloadReady ∧ layer.headerSize + payload + layer.pad.length < UInt64.size
  | .measured => ownReady
  | .fixed _ => True

/-- The length of a layer is had by its rule. -/
theorem lengthAround_meets {payloadLength : Access Nat} {ownBytes : Access Bytes} {payload : Nat}
    {own : Bytes} {ready ownReady : Bank Cell Cell.Value → Prop}
    (denoted : ∀ header, layer.header? = some header → header.Denoted canon object)
    (within : object.cells 4 ⊆ region)
    (inside : Meets canon payloadLength ⟨region, ready, fault, payload⟩)
    (bytes : Meets canon ownBytes ⟨region, ownReady, fault, own⟩)
    (stable : ∀ before after : Memory, before.Advances (object.cells 4) after →
      (ready after.bank ↔ ready before.bank))
    (excess : layer.lengthRule = .composed →
      UInt64.size ≤ layer.headerSize + payload + layer.pad.length → ∀ bank, fault .overflow bank) :
    Meets canon (layer.lengthAround object payloadLength ownBytes)
      ⟨region, fun bank => layer.LengthFollows payload (ready bank) (ownReady bank), fault,
        layer.plainLength payload own⟩ := by
  unfold lengthAround LengthFollows plainLength
  cases rule : layer.lengthRule with
  | fixed count => exact .pure region fault _
  | measured => exact bytes.bind_pure (.pure region fault _)
  | composed =>
    have header : Meets canon (layer.withHeader object 0 Header.length)
        ⟨object.cells 4, fun _ => True, fault, layer.headerSize⟩ :=
      withHeader_meets denoted fun header known => header.length_meets known (by decide)
    have front : Meets canon (Access.addLengths layer.headerSize payload)
        ⟨region, fun _ => layer.headerSize + payload < UInt64.size, fault, _⟩ :=
      Access.addLengths_meets region fun large =>
        excess rule (Nat.le_trans large (Nat.le_add_right _ _))
    have whole : Meets canon (Access.addLengths (layer.headerSize + payload) layer.pad.length)
        ⟨region, fun _ => layer.headerSize + payload + layer.pad.length < UInt64.size, fault, _⟩ :=
      Access.addLengths_meets region fun large => excess rule large
    have sums : Meets canon
        (Access.addLengths layer.headerSize payload >>= fun sum =>
          Access.addLengths sum layer.pad.length)
        ⟨region, fun _ => layer.headerSize + payload < UInt64.size ∧
          layer.headerSize + payload + layer.pad.length < UInt64.size, fault, _⟩ :=
      front.bind subset_rfl whole fun _ _ _ => Iff.rfl
    have rest : Meets canon
        (payloadLength >>= fun inside => Access.addLengths layer.headerSize inside >>= fun sum =>
          Access.addLengths sum layer.pad.length)
        ⟨region, fun bank => ready bank ∧ layer.headerSize + payload < UInt64.size ∧
          layer.headerSize + payload + layer.pad.length < UInt64.size, fault, _⟩ :=
      inside.bind subset_rfl sums fun _ _ _ => Iff.rfl
    have composed : Meets canon
        (layer.withHeader object 0 Header.length >>= fun before => payloadLength >>= fun inside =>
          Access.addLengths before inside >>= fun sum => Access.addLengths sum layer.pad.length)
        ⟨region, fun bank => ready bank ∧ layer.headerSize + payload < UInt64.size ∧
          layer.headerSize + payload + layer.pad.length < UInt64.size, fault, _⟩ :=
      header.bind_ready within rest fun before after advance => by
        simp only [stable before after advance]
    refine composed.retell fun bank _ => ?_
    constructor
    · rintro ⟨had, fits⟩
      exact ⟨had, by omega, fits⟩
    · rintro ⟨had, -, fits⟩
      exact ⟨had, fits⟩

/-- The text of a layer is always had if that of its payload is. -/
theorem textAround_meets {payloadText : Access String} {payload : String}
    (denoted : ∀ header, layer.header? = some header → header.Denoted canon object)
    (within : object.cells 4 ⊆ region)
    (inside : Meets canon payloadText ⟨region, fun _ => True, fault, payload⟩) :
    Meets canon (layer.textAround object payloadText)
      ⟨region, fun _ => True, fault, layer.headerText ++ payload ++ layer.padText⟩ := by
  have header : Meets canon (layer.withHeader object "" Header.text)
      ⟨object.cells 4, fun _ => True, fault, layer.headerText⟩ :=
    withHeader_meets denoted fun header known => header.text_meets known (by decide)
  exact header.bind_ready within (inside.bind_pure (.pure region fault _)) fun _ _ _ => Iff.rfl

end Layer

namespace Packet

/-- A cell of a packet answers if it is filled or its computation is ready, where the computation
asks only for cells further in and for cells of the packet below it. -/
theorem remember_meets (view : View) {chain depth level : Nat} (below : view.level < level)
    {compute : Access view.Value} {value : view.Value} {ready : Bank Cell Cell.Value → Prop}
    (met : Meets canon compute ⟨reach chain depth view.level, ready, fault, value⟩)
    (laid : canon ⟨.packet chain depth, view⟩ = some value) :
    Meets canon (Access.remember (.packet chain depth) view compute)
      ⟨reach chain depth level,
        fun bank => bank.isFilled ⟨.packet chain depth, view⟩ = true ∨ ready bank, fault, value⟩ :=
  met.resolve (reach_mono chain depth (Nat.le_of_lt below)) (by simp [below]) (by simp) laid

/-- Bytes are had if they pass the check against a remembered length, and are remembered or can be
put together. -/
theorem checked_meets {chain depth : Nat} {kind : Kind} {compose : Access Bytes}
    {bytes : Bytes} {length : Nat} {ready : Bank Cell Cell.Value → Prop}
    (met : Meets canon compose ⟨reach chain depth 0, ready, fault, bytes⟩)
    (laidBytes : canon ⟨.packet chain depth, .bytes⟩ = some bytes)
    (laidLength : canon ⟨.packet chain depth, .length⟩ = some length)
    (wrong : ∀ bank : Bank Cell Cell.Value, bytes.length ≠ length →
      bank.get? ⟨.packet chain depth, .bytes⟩ = some bytes →
      bank.get? ⟨.packet chain depth, .length⟩ = some length →
      fault (.mismatch kind bytes.length length) bank) :
    Meets canon (checked (.packet chain depth) kind compose)
      ⟨reach chain depth 1,
        fun bank =>
          (bank.isFilled ⟨.packet chain depth, .length⟩ = true → bytes.length = length) ∧
            (bank.isFilled ⟨.packet chain depth, .bytes⟩ = true ∨ ready bank),
        fault, bytes⟩ := by
  have building : Meets canon
      (compose >>= fun built => Memo.Eval.emit (.bytesBuilt (.packet chain depth) kind built.length)
        >>= fun _ => pure built)
      ⟨reach chain depth 0, ready, fault, bytes⟩ :=
    met.bind_pure ((Meets.emit _ _ _).bind_pure (.pure _ _ _))
  have remembering := remember_meets .bytes Nat.zero_lt_one building laidBytes
  have apart : Cell.mk (.packet chain depth) .length ∉ reach chain depth 1 := by simp [View.level]
  intro computing state clear coherent
  obtain ⟨reached, advance, kept, outcome⟩ := remembering computing state clear coherent
  have unchanged := advance.spares _ apart
  refine ⟨reached, advance, kept, ?_⟩
  unfold checked Access.remembered
  rw [Memo.Eval.bind_apply]
  rcases outcome with ⟨had, returned⟩ | ⟨lacking, cause, inner, failed, blame, vacant⟩
  · have filled : reached.bank.get? ⟨.packet chain depth, .bytes⟩ = some bytes := by
      obtain ⟨held, content⟩ :=
        Option.isSome_iff_exists.mp (Memo.Eval.isFilled_of_resolve returned)
      exact kept.get?_eq content laidBytes
    rw [returned]
    simp only [Memo.Eval.bind_apply, Memo.Eval.peek_apply, Bank.isFilled]
    rw [← unchanged]
    cases content : reached.bank.get? ⟨.packet chain depth, .length⟩ with
    | none => exact .inl ⟨⟨by simp, had⟩, rfl⟩
    | some remembered =>
      obtain rfl : remembered = length := kept _ remembered length content laidLength
      by_cases same : bytes.length = remembered
      · simp only [if_pos same]
        exact .inl ⟨⟨fun _ => same, had⟩, rfl⟩
      · simp only [if_neg same]
        refine .inr ⟨fun fit => same (fit.1 rfl), _, [], rfl, ?_, by simp⟩
        exact wrong reached.bank same filled content
  · rw [failed]
    exact .inr ⟨fun fit => lacking fit.2, cause, inner, rfl, blame, vacant⟩

variable {chain : Nat} {packet : Packet}

/-- The fault of a layer whose bytes are not as many as the length it remembers. -/
theorem faulty_mismatch {bank : Bank Cell Cell.Value} (differ : ¬ packet.Agrees)
    (bytes : bank.get? ⟨packet.object chain, .bytes⟩ = some packet.plainBytes)
    (length : bank.get? ⟨packet.object chain, .length⟩ = some packet.plainLength) :
    packet.Faulty chain (.mismatch packet.kind packet.plainBytes.length packet.plainLength) bank :=
  ⟨packet, packet.mem_walk_self, rfl, differ, ⟨packet.plainBytes, bytes, rfl⟩, length⟩

/-- The bytes of raw data are always had. -/
theorem data_meets {data : Bytes} (denoted : Packet.Denoted canon chain (.unknown data)) :
    Meets canon (readBytes chain (.unknown data))
      ⟨reach chain 1 1, fun _ => True, fault, data⟩ := by
  refine Meets.retell (checked_meets (.pure _ _ data) (denoted.view .bytes) (denoted.view .length)
    fun bank differ => absurd rfl differ) fun _ _ => ?_
  simp [meaning, plainLength]

/-- The bytes of a packet are had from the banks in which they are ready. -/
theorem readBytes_meets (denoted : packet.Denoted canon chain) :
    Meets canon (readBytes chain packet)
      ⟨reach chain packet.depth 1, (packet.BytesReady chain ·), packet.Faulty chain,
        packet.plainBytes⟩ := by
  induction packet with
  | unknown data => exact data_meets denoted
  | bare layer =>
    have composed : Meets canon (layer.bytesAround (.header chain 1) (pure []))
        ⟨reach chain 1 0, fun _ => layer.replacement?.isSome = true ∨ True,
          Packet.Faulty chain (.bare layer), plainBytes (.bare layer)⟩ :=
      layer.bytesAround_meets (fun header present => denoted.header present)
        (header_cells_subset chain 1 4 0) (.pure _ _ []) fun _ _ _ => Iff.rfl
    refine Meets.retell (checked_meets composed (denoted.view .bytes) (denoted.view .length)
      fun bank differ => faulty_mismatch differ) fun _ _ => ?_
    simp [BytesReady, Passes, Remembers, Agrees, object, meaning, Chain.depth]
  | wrap layer payload ih =>
    have inside : Meets canon (readBytes chain payload)
        ⟨reach chain (payload.depth + 1) 0, (BytesReady chain · payload),
          Packet.Faulty chain (.wrap layer payload), plainBytes payload⟩ :=
      (ih denoted.payload).weaken (reach_succ chain payload.depth 1) (fun _ _ => Iff.rfl)
        fun _ _ blame => blame.wrap
    have composed := layer.bytesAround_meets (fun header present => denoted.header present)
      (header_cells_subset chain (payload.depth + 1) 4 0) inside
      fun before after advance =>
        bytesReady_congr payload (.of_header_cells advance Nat.one_ne_zero)
    refine Meets.retell (checked_meets composed (denoted.view .bytes) (denoted.view .length)
      fun bank differ => faulty_mismatch differ) fun _ _ => ?_
    simp [BytesReady, Passes, Remembers, Agrees, object, meaning, Chain.depth]

/-- The length of a packet is had from the banks in which it is ready. -/
theorem length_meets (denoted : packet.Denoted canon chain) :
    Meets canon (length chain packet)
      ⟨reach chain packet.depth 2, (packet.LengthReady chain ·), packet.Faulty chain,
        packet.plainLength⟩ := by
  induction packet with
  | unknown data =>
    have answered := remember_meets .length (by decide : 1 < 2)
      (.pure (reach chain 1 1) (Packet.Faulty chain (.unknown data)) _) (denoted.view .length)
    exact answered.retell fun _ _ => by simp [LengthReady]
  | bare layer =>
    have follows := layer.lengthAround_meets (fun header present => denoted.header present)
      (header_cells_subset chain 1 4 1) (.pure _ (Packet.Faulty chain (.bare layer)) 0)
      (readBytes_meets denoted) (fun _ _ _ => Iff.rfl) fun rule large bank =>
        ⟨.bare layer, by simp, by simpa [plainLength, Layer.plainLength, rule] using large⟩
    have answered := remember_meets .length (by decide : 1 < 2) follows (denoted.view .length)
    refine answered.retell fun bank _ => ?_
    cases rule : layer.lengthRule <;>
      simp [LengthReady, Layer.LengthFollows, Remembers, object, Chain.depth, plainLength,
        Layer.plainLength, rule]
  | wrap layer payload ih =>
    have inside : Meets canon (length chain payload)
        ⟨reach chain (payload.depth + 1) 1, (LengthReady chain · payload),
          Packet.Faulty chain (.wrap layer payload), plainLength payload⟩ :=
      (ih denoted.payload).weaken
        ((reach_succ chain payload.depth 2).trans (reach_mono chain _ (by decide)))
        (fun _ _ => Iff.rfl) fun _ _ blame => blame.wrap
    have follows := layer.lengthAround_meets (fun header present => denoted.header present)
      (header_cells_subset chain (payload.depth + 1) 4 1) inside (readBytes_meets denoted)
      (fun before after advance => lengthReady_congr payload
        (.of_header_cells advance Nat.one_ne_zero))
      fun rule large bank => ⟨.wrap layer payload, by simp,
        by simpa [plainLength, Layer.plainLength, rule] using large⟩
    have answered := remember_meets .length (by decide : 1 < 2) follows (denoted.view .length)
    refine answered.retell fun bank _ => ?_
    cases rule : layer.lengthRule <;>
      simp [LengthReady, Layer.LengthFollows, Remembers, object, Chain.depth, plainLength,
        Layer.plainLength, rule]

/-- What is worked out from the bytes of a packet is had if it is remembered or the bytes are
had. -/
theorem ofBytes_meets (denoted : packet.Denoted canon chain) (view : View)
    (above : 0 < view.level) (derive : Bytes → view.Value)
    (meant : derive packet.plainBytes = packet.meaning view) :
    Meets canon
      (Access.remember (packet.object chain) view (readBytes chain packet >>= fun bytes =>
        pure (derive bytes)))
      ⟨reach chain packet.depth 4,
        fun bank => packet.Remembers chain bank view ∨ packet.BytesReady chain bank,
        packet.Faulty chain, packet.meaning view⟩ := by
  have derived : Meets canon (readBytes chain packet >>= fun bytes => pure (derive bytes))
      ⟨reach chain packet.depth 1, (packet.BytesReady chain ·), packet.Faulty chain,
        packet.meaning view⟩ := by
    rw [← meant]
    exact (readBytes_meets denoted).bind_pure (.pure _ _ _)
  have earlier : reach chain packet.depth 1 ⊆ reach chain packet.depth view.level :=
    reach_mono chain packet.depth above
  exact remember_meets view view.level_lt
    (derived.widen earlier) (denoted.view view)

/-- The text of a packet is always had: it asks for texts and for lengths that cannot fail. -/
theorem text_meets (denoted : packet.Denoted canon chain) :
    Meets canon (text chain packet)
      ⟨reach chain packet.depth 4, fun _ => True, packet.Faulty chain, packet.plainText⟩ := by
  induction packet with
  | unknown data =>
    have described : Meets canon
        (length chain (.unknown data) >>= fun count => pure (describeData data count))
        ⟨reach chain 1 2, fun _ => True, Packet.Faulty chain (.unknown data),
          describeData data data.length⟩ :=
      (length_meets denoted).bind_pure (.pure _ _ _)
    have answered := remember_meets .text (by decide : 3 < 4)
      (described.widen (reach_mono chain 1 (by decide : 2 ≤ 3))) (denoted.view .text)
    exact answered.retell fun _ _ => by simp
  | bare layer =>
    have composed := layer.textAround_meets (fun header present => denoted.header present)
      (header_cells_subset chain 1 4 3) (.pure _ (Packet.Faulty chain (.bare layer)) "")
    have answered := remember_meets .text (by decide : 3 < 4) composed (denoted.view .text)
    exact answered.retell fun _ _ => by simp
  | wrap layer payload ih =>
    have inside : Meets canon (text chain payload)
        ⟨reach chain (payload.depth + 1) 3, fun _ => True,
          Packet.Faulty chain (.wrap layer payload), plainText payload⟩ :=
      (ih denoted.payload).weaken
        ((reach_succ chain payload.depth 4).trans (reach_mono chain _ (by decide)))
        (fun _ _ => Iff.rfl) fun _ _ blame => blame.wrap
    have composed := layer.textAround_meets (fun header present => denoted.header present)
      (header_cells_subset chain (payload.depth + 1) 4 3) inside
    have answered := remember_meets .text (by decide : 3 < 4) composed (denoted.view .text)
    exact answered.retell fun _ _ => by simp

/-- Every view of a packet returns its meaning from the banks in which it is ready. -/
theorem read_meets (denoted : packet.Denoted canon chain) (view : View) :
    Meets canon (read chain packet view)
      ⟨reach chain packet.depth 4, (packet.Ready chain · view), packet.Faulty chain,
        packet.meaning view⟩ := by
  cases view with
  | length =>
    exact (length_meets denoted).widen (reach_mono chain _ (by decide))
  | bytes =>
    exact (readBytes_meets denoted).widen (reach_mono chain _ (by decide))
  | hex => exact ofBytes_meets denoted .hex (by decide) (Bytes.toHex " ") rfl
  | text => exact text_meets denoted
  | hash => exact ofBytes_meets denoted .hash (by decide) Bytes.hash rfl

end Packet

end Encapsulation
