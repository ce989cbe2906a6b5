import Encapsulation.Proofs.Access.Packet

/-!
# Bytes after lengths

Asking for the length of a packet fills cells for lengths further in, and bytes are then held
against them. `MeasuredReady` says from which banks the bytes of a packet can be had once its
length has been asked for; `length_leaves` is the law that it is right. After the length, the bytes
are ready in fewer cases than before, never in more.
-/
namespace Encapsulation.Packet

open Memo (Canon Bank)
open Memo.Eval (Meets bind_eq_ok resolve_eq_ok isFilled_of_resolve)

/-- The bytes of a packet can be had after its length has been asked for: they are as many as the
length says, and they are remembered or can be put together. Only a composed length that is not
remembered asks further in. -/
def MeasuredReady (chain : Nat) (bank : Bank Cell Cell.Value) : Packet → Prop
  | .unknown _ => True
  | .bare layer => Agrees (.bare layer)
  | .wrap layer payload =>
    Agrees (.wrap layer payload) ∧
      (Remembers chain bank (.wrap layer payload) .bytes ∨ layer.replacement?.isSome = true ∨
        BytesReady chain bank payload ∧
          (layer.lengthRule = .composed → ¬ Remembers chain bank (.wrap layer payload) .length →
            MeasuredReady chain bank payload))

variable {canon : Canon Cell Cell.Value} {chain : Nat} {packet : Packet}

/-- Bytes that can be had after the length can be had before it. -/
theorem bytesReady_of_measuredReady {bank : Bank Cell Cell.Value}
    (measured : packet.MeasuredReady chain bank) : packet.BytesReady chain bank := by
  cases packet with
  | unknown data => trivial
  | bare layer => exact fun _ => measured
  | wrap layer payload =>
    obtain ⟨agrees, source⟩ := measured
    refine ⟨fun _ => agrees, ?_⟩
    rcases source with remembered | replaced | inside
    · exact .inl remembered
    · exact .inr (.inl replaced)
    · exact .inr (.inr inside.1)

/-- Asking again for a length that is remembered changes nothing. -/
theorem measuredReady_iff_bytesReady {bank : Bank Cell Cell.Value}
    (remembered : packet.Remembers chain bank .length) :
    packet.MeasuredReady chain bank ↔ packet.BytesReady chain bank := by
  cases packet with
  | unknown data => exact Iff.rfl
  | bare layer => exact ⟨fun agrees _ => agrees, fun passes => passes remembered⟩
  | wrap layer payload =>
    have passes : Passes chain bank (.wrap layer payload) ↔ Agrees (.wrap layer payload) :=
      ⟨fun passes => passes remembered, fun agrees _ => agrees⟩
    simp only [BytesReady, MeasuredReady, passes, remembered, not_true_eq_false, false_implies,
      implies_true, and_true]

/-- Bytes can be had after the length from banks that are alike. -/
theorem measuredReady_congr {left right : Bank Cell Cell.Value} (packet : Packet)
    (alike : Alike chain packet.depth left right) :
    packet.MeasuredReady chain left ↔ packet.MeasuredReady chain right := by
  induction packet with
  | unknown data => exact Iff.rfl
  | bare layer => exact Iff.rfl
  | wrap layer payload ih =>
    have own := alike (payload.depth + 1) (Nat.succ_pos _) (Nat.le_refl _)
    have around : 1 < payload.depth + 1 := Nat.succ_lt_succ payload.depth_pos
    have inside := ih (alike.mono (Nat.le_succ _))
    have bytes := bytesReady_congr payload (alike.mono (Nat.le_succ _))
    simp only [MeasuredReady, Remembers, object, Chain.depth, own.1, own.2 around, inside, bytes]

/-- A packet whose bytes were had remembers them. -/
theorem remembers_of_readBytes {computing : List Cell} {before after : Memory} {bytes : Bytes}
    (returned : readBytes chain packet computing before = .ok bytes after) :
    packet.Remembers chain after.bank .bytes := by
  have checked_fills : ∀ (object : Object) (kind : Kind) (compose : Access Bytes),
      checked object kind compose computing before = .ok bytes after →
        after.bank.isFilled ⟨object, .bytes⟩ = true := by
    intro object kind compose returned
    obtain ⟨built, middle, answered, compared⟩ := bind_eq_ok.mp returned
    have filled := isFilled_of_resolve answered
    obtain ⟨remembered, state, looked, compared⟩ := bind_eq_ok.mp compared
    obtain ⟨-, rfl⟩ := EStateM.Result.ok.inj looked
    cases remembered with
    | none =>
      obtain ⟨rfl, rfl⟩ := EStateM.Result.ok.inj compared
      exact filled
    | some length =>
      by_cases same : built.length = length
      · simp only [if_pos same] at compared
        obtain ⟨rfl, rfl⟩ := EStateM.Result.ok.inj compared
        exact filled
      · simp only [if_neg same] at compared
        cases compared
  cases packet with
  | unknown data => exact checked_fills _ _ _ returned
  | bare layer => exact checked_fills _ _ _ returned
  | wrap layer payload => exact checked_fills _ _ _ returned

/-- A packet whose length was had remembers it. -/
theorem remembers_of_length {computing : List Cell} {before after : Memory} {count : Nat}
    (returned : length chain packet computing before = .ok count after) :
    packet.Remembers chain after.bank .length := by
  cases packet with
  | unknown data =>
    rw [length, Access.remember] at returned
    exact isFilled_of_resolve returned
  | bare layer => exact isFilled_of_resolve returned
  | wrap layer payload => exact isFilled_of_resolve returned

/-- A sum of lengths leaves the memory as it is. -/
theorem memory_of_addLengths {first second sum : Nat} {computing : List Cell}
    {before after : Memory}
    (returned : Access.addLengths first second computing before = .ok sum after) :
    after = before := by
  unfold Access.addLengths at returned
  split at returned
  · exact (EStateM.Result.ok.inj returned).2.symm
  · cases returned

/-- What was asked for when the length of a layer was put together: the length of the payload after
that of the header, or the bytes of the layer, or nothing. -/
theorem lengthAround_eq_ok {layer : Layer} {object : Object} {payloadLength : Access Nat}
    {ownBytes : Access Bytes}
    (denoted : ∀ header, layer.header? = some header → header.Denoted canon object)
    {computing : List Cell} {before after : Memory} {value : Nat}
    (apart : ∀ cell ∈ computing, cell ∉ object.cells 4) (coherent : before.bank.Coherent canon)
    (returned : layer.lengthAround object payloadLength ownBytes computing before =
      .ok value after) :
    match layer.lengthRule with
    | .composed => ∃ count middle, before.Advances (object.cells 4) middle ∧
        middle.bank.Coherent canon ∧ payloadLength computing middle = .ok count after
    | .measured => ∃ bytes, ownBytes computing before = .ok bytes after
    | .fixed _ => after = before := by
  unfold Layer.lengthAround at returned
  cases rule : layer.lengthRule with
  | composed =>
    rw [rule] at returned
    obtain ⟨size, middle, headed, summed⟩ := bind_eq_ok.mp returned
    obtain ⟨count, reached, entered, added⟩ := bind_eq_ok.mp summed
    obtain ⟨sum, front, added, padded⟩ := bind_eq_ok.mp added
    have unchanged : after = reached :=
      (memory_of_addLengths padded).trans (memory_of_addLengths added)
    have header : Meets canon (layer.withHeader object 0 Header.length)
        ⟨object.cells 4, fun _ => True, fun _ _ => True, layer.headerSize⟩ :=
      layer.withHeader_meets denoted fun header known => header.length_meets known (by decide)
    obtain ⟨-, -, advance, kept⟩ := header.of_eq_ok apart coherent headed
    exact ⟨count, middle, advance, kept, unchanged ▸ entered⟩
  | measured =>
    rw [rule] at returned
    obtain ⟨bytes, middle, answered, counted⟩ := bind_eq_ok.mp returned
    obtain ⟨-, rfl⟩ := EStateM.Result.ok.inj counted
    exact ⟨bytes, answered⟩
  | fixed count =>
    rw [rule] at returned
    exact (EStateM.Result.ok.inj returned).2.symm

/-- Where the bytes of a layer come from after its length has been put together, said by what was
remembered before. -/
theorem lengthAround_leaves {layer : Layer} {payload : Packet}
    (denoted : Packet.Denoted canon chain (.wrap layer payload)) {computing : List Cell}
    {before after : Memory} {value : Nat}
    (apart : ∀ cell ∈ computing, cell ∉ reach chain (payload.depth + 1) 1)
    (coherent : before.bank.Coherent canon)
    (vacant : ¬ Remembers chain before.bank (.wrap layer payload) .length)
    (inside : ∀ {middle : Memory} {count : Nat}, middle.bank.Coherent canon →
      length chain payload computing middle = .ok count after →
      (BytesReady chain after.bank payload ↔ MeasuredReady chain middle.bank payload))
    (returned : layer.lengthAround (.header chain (payload.depth + 1)) (length chain payload)
      (readBytes chain (.wrap layer payload)) computing before = .ok value after) :
    (Remembers chain after.bank (.wrap layer payload) .bytes ∨ layer.replacement?.isSome = true ∨
        BytesReady chain after.bank payload) ↔
      (Remembers chain before.bank (.wrap layer payload) .bytes ∨
        layer.replacement?.isSome = true ∨
        BytesReady chain before.bank payload ∧
          (layer.lengthRule = .composed →
            ¬ Remembers chain before.bank (.wrap layer payload) .length →
              MeasuredReady chain before.bank payload)) := by
  have headerCells := header_cells_subset chain (payload.depth + 1) 4 1
  have followed := lengthAround_eq_ok (fun header present => denoted.header present)
    (fun cell known member => apart cell known (headerCells member)) coherent returned
  cases rule : layer.lengthRule with
  | composed =>
    rw [rule] at followed
    obtain ⟨count, middle, headerAdvance, kept, entered⟩ := followed
    have payloadCells : reach chain payload.depth 2 ⊆ reach chain (payload.depth + 1) 0 :=
      reach_succ chain payload.depth 2
    obtain ⟨-, -, payloadAdvance, -⟩ := (length_meets denoted.payload).of_eq_ok
      (fun cell known member => apart cell known
        (reach_mono chain _ (Nat.zero_le 1) (payloadCells member))) kept entered
    have advance : before.Advances (reach chain (payload.depth + 1) 0) after :=
      (headerAdvance.mono (header_cells_subset chain _ 4 0)).trans
        (payloadAdvance.mono payloadCells)
    have own : Remembers chain after.bank (.wrap layer payload) .bytes ↔
        Remembers chain before.bank (.wrap layer payload) .bytes := by
      have same : after.bank.isFilled ⟨object chain (.wrap layer payload), .bytes⟩ =
          before.bank.isFilled ⟨object chain (.wrap layer payload), .bytes⟩ :=
        advance.isFilled_eq (by simp [object, Chain.depth])
      rw [Remembers, same, Remembers]
    have alike : Alike chain payload.depth middle.bank before.bank :=
      .of_header_cells headerAdvance Nat.one_ne_zero
    have later : BytesReady chain after.bank payload ↔ MeasuredReady chain before.bank payload :=
      (inside kept entered).trans (measuredReady_congr payload alike)
    rw [own, later]
    constructor
    · rintro (remembered | replaced | measured)
      · exact .inl remembered
      · exact .inr (.inl replaced)
      · exact .inr (.inr ⟨bytesReady_of_measuredReady measured, fun _ _ => measured⟩)
    · rintro (remembered | replaced | ⟨-, measured⟩)
      · exact .inl remembered
      · exact .inr (.inl replaced)
      · exact .inr (.inr (measured rfl vacant))
  | measured =>
    rw [rule] at followed
    obtain ⟨bytes, answered⟩ := followed
    obtain ⟨⟨-, source⟩, -⟩ := (readBytes_meets denoted).of_eq_ok apart coherent answered
    refine ⟨fun _ => ?_, fun _ => .inl (remembers_of_readBytes answered)⟩
    rcases source with remembered | replaced | ready
    · exact .inl remembered
    · exact .inr (.inl replaced)
    · exact .inr (.inr ⟨ready, fun composed => by cases composed⟩)
  | fixed count =>
    rw [rule] at followed
    subst followed
    simp

/-- Once the length of a packet has been had, its bytes are ready where that was said before. -/
theorem length_leaves (denoted : packet.Denoted canon chain) {computing : List Cell}
    {before after : Memory} {value : Nat}
    (apart : ∀ cell ∈ computing, cell ∉ reach chain packet.depth 2)
    (coherent : before.bank.Coherent canon)
    (returned : length chain packet computing before = .ok value after) :
    packet.BytesReady chain after.bank ↔ packet.MeasuredReady chain before.bank := by
  have remembered := remembers_of_length returned
  induction packet generalizing computing before after value with
  | unknown data => exact Iff.rfl
  | bare layer => exact (measuredReady_iff_bytesReady remembered).symm
  | wrap layer payload ih =>
    rcases resolve_eq_ok returned with ⟨content, rfl⟩ | ⟨vacant, middle, computed, rfl⟩
    · exact (measuredReady_iff_bytesReady remembered).symm
    · have clear : ∀ cell ∈ ⟨.packet chain (payload.depth + 1), .length⟩ :: computing,
          cell ∉ reach chain (payload.depth + 1) 1 := by
        intro cell known member
        rcases List.mem_cons.mp known with rfl | known
        · simp [View.level] at member
        · exact apart cell known (reach_mono chain _ (by decide : 1 ≤ 2) member)
      have payloadClear : ∀ cell ∈ ⟨.packet chain (payload.depth + 1), .length⟩ :: computing,
          cell ∉ reach chain payload.depth 2 := fun cell known member =>
        clear cell known (reach_mono chain _ (Nat.zero_le 1) (reach_succ chain _ 2 member))
      have unremembered : ¬ Remembers chain before.bank (.wrap layer payload) .length := by
        intro filled
        rw [Remembers, Bank.isFilled, object, Chain.depth, vacant] at filled
        cases filled
      have sources := lengthAround_leaves denoted clear coherent unremembered
        (fun kept entered => ih denoted.payload payloadClear kept entered
          (remembers_of_length entered)) computed
      have filling := Memo.State.Advances.of_fill middle
        (Cell.mk (.packet chain (payload.depth + 1)) .length) value
      have alike : Alike chain payload.depth
          (middle.bank.fill (Cell.mk (.packet chain (payload.depth + 1)) .length) value)
          middle.bank := by
        refine .of_spares filling (fun inner _ within member => ?_) fun inner _ _ member => ?_
        · simp only [Set.mem_singleton_iff, Cell.mk.injEq, Object.packet.injEq] at member
          omega
        · simp at member
      have payloadBytes := bytesReady_congr payload alike
      have ownBytes : Remembers chain
          (middle.bank.fill (Cell.mk (.packet chain (payload.depth + 1)) .length) value)
          (.wrap layer payload) .bytes ↔
            Remembers chain middle.bank (.wrap layer payload) .bytes := by
        have same := filling.isFilled_eq
          (by simp : Cell.mk (.packet chain (payload.depth + 1)) .bytes ∉ _)
        exact iff_of_eq (congrArg (· = true) same)
      rw [← measuredReady_iff_bytesReady remembered]
      simp only [MeasuredReady, remembered, not_true_eq_false, false_implies, implies_true,
        and_true, payloadBytes, ownBytes, sources]

end Encapsulation.Packet
