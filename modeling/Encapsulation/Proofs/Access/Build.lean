import Encapsulation.Access.Build
import Encapsulation.Proofs.Access.Measured
import Encapsulation.Proofs.Builder.Outlook

/-!
# Contracts of builds

Under a chain number of which no cell is filled, a build returns exactly if its builder is
buildable, and then the packet is the one that its fields say. It fills cells of the new chain
only, inside the outermost layer, and leaves the packet with the outlook of its builder.
-/
namespace Encapsulation

open Memo (Canon Bank)
open Memo.Eval (Meets bind_eq_ok)
open Packet (BytesReady LengthReady MeasuredReady Remembers)

variable {canon : Canon Cell Cell.Value} {region : Set Cell} {chain : Nat}
  {fault : Fault → Bank Cell Cell.Value → Prop}

namespace Draft

/-- A datagram is built in two steps: its length field, and then the rest. -/
theorem finish_udp (draft : UdpDraft) (payloadLength : Access Nat) :
    (udp draft).finish payloadLength =
      (if draft.correctLength then
        payloadLength >>= fun length => UInt16.ofNat <$> Access.addLengths UdpHeader.size length
      else pure draft.length) >>= fun length =>
        Memo.Eval.emit (.datagramBuilt draft.source draft.destination length) >>= fun _ =>
          pure (.udp (draft.headerWith length)) := by
  unfold finish
  by_cases corrected : draft.correctLength = true
  · simp only [if_pos corrected, bind_assoc]
  · simp only [if_neg corrected]

/-- A draft becomes a layer if the length that it asks for, if any, can be had and fits. -/
theorem finish_meets {draft : Draft} {payloadLength : Access Nat} {length : Nat}
    {ready : Bank Cell Cell.Value → Prop}
    (inside : Meets canon payloadLength ⟨region, ready, fault, length⟩)
    (excess : ∀ bank, fault .overflow bank) :
    Meets canon (draft.finish payloadLength)
      ⟨region, fun bank => (draft.asksLength = true → ready bank) ∧ draft.Fits length, fault,
        draft.plainFinish length⟩ := by
  cases draft with
  | ethernet draft =>
    have finished : Meets canon
        (payloadLength >>= fun length =>
          Memo.Eval.emit (.frameBuilt draft.etherType length (draft.padFor length).length)
            >>= fun _ => pure (Layer.ethernet (draft.headerFor length) (draft.padFor length)))
        ⟨region, ready, fault, plainFinish (.ethernet draft) length⟩ :=
      inside.bind_pure ((Meets.emit _ _ _).bind_pure (.pure _ _ _))
    exact finished.retell fun _ _ => by simp [asksLength, Fits]
  | llcSnap header =>
    exact .pure_of_forall (fun _ => by simp [asksLength, Fits]) (Layer.llcSnap header)
  | udp draft =>
    have corrected : Meets canon
        (payloadLength >>= fun length => UInt16.ofNat <$> Access.addLengths UdpHeader.size length)
        ⟨region, fun bank => ready bank ∧ UdpHeader.size + length < UInt64.size, fault,
          UInt16.ofNat (UdpHeader.size + length)⟩ := by
      simp only [map_eq_pure_bind]
      have sum : Meets canon
          (Access.addLengths UdpHeader.size length >>= fun sum => pure (UInt16.ofNat sum))
          ⟨region, fun _ => UdpHeader.size + length < UInt64.size, fault,
            UInt16.ofNat (UdpHeader.size + length)⟩ :=
        (Access.addLengths_meets region fun _ => excess).bind_pure (.pure _ _ _)
      exact inside.bind subset_rfl sum fun _ _ _ => Iff.rfl
    have lengthField : Meets canon
        (if draft.correctLength then
          payloadLength >>= fun length => UInt16.ofNat <$> Access.addLengths UdpHeader.size length
        else pure draft.length)
        ⟨region,
          fun bank => (draft.correctLength = true → ready bank) ∧
            (draft.correctLength = true → UdpHeader.size + length < UInt64.size),
          fault,
          if draft.correctLength then UInt16.ofNat (UdpHeader.size + length) else draft.length⟩ := by
      cases draft.correctLength with
      | true => exact corrected.retell fun _ _ => by simp
      | false =>
        exact .pure_of_forall (fun _ => by simp) draft.length
    have reported : ∀ number : UInt16, Meets canon
        (Memo.Eval.emit (Event.datagramBuilt draft.source draft.destination number) >>= fun _ =>
          pure (Layer.udp (draft.headerWith number)))
        ⟨region, fun _ => True, fault, Layer.udp (draft.headerWith number)⟩ :=
      fun number => (Meets.emit _ _ _).bind_pure (.pure _ _ _)
    rw [finish_udp]
    refine Meets.retell (lengthField.bind_pure (reported _)) fun _ _ => ?_
    simp [asksLength, Fits]
  | custom layer =>
    exact .pure_of_forall (fun _ => by simp [asksLength, Fits]) (Layer.custom layer)

/-- What was asked for when a draft became a layer: the length of the payload, or nothing. -/
theorem finish_eq_ok {draft : Draft} {payloadLength : Access Nat} {computing : List Cell}
    {before after : Memory} {layer : Layer}
    (returned : draft.finish payloadLength computing before = .ok layer after) :
    (draft.asksLength = true ∧ ∃ count middle,
        payloadLength computing before = .ok count middle ∧ after.bank = middle.bank) ∨
      (draft.asksLength = false ∧ after.bank = before.bank) := by
  cases draft with
  | ethernet draft =>
    obtain ⟨count, middle, answered, reported⟩ := bind_eq_ok.mp returned
    obtain ⟨-, rfl⟩ := EStateM.Result.ok.inj reported
    exact .inl ⟨rfl, count, middle, answered, rfl⟩
  | llcSnap header =>
    obtain ⟨-, rfl⟩ := EStateM.Result.ok.inj returned
    exact .inr ⟨rfl, rfl⟩
  | udp draft =>
    rw [finish_udp] at returned
    obtain ⟨length, middle, worked, reported⟩ := bind_eq_ok.mp returned
    obtain ⟨-, rfl⟩ := EStateM.Result.ok.inj reported
    cases corrected : draft.correctLength with
    | true =>
      rw [if_pos corrected] at worked
      obtain ⟨count, reached, answered, summed⟩ := bind_eq_ok.mp worked
      rw [map_eq_pure_bind] at summed
      obtain ⟨sum, state, added, field⟩ := bind_eq_ok.mp summed
      obtain ⟨-, rfl⟩ := EStateM.Result.ok.inj field
      obtain rfl := Packet.memory_of_addLengths added
      exact .inl ⟨corrected, count, state, answered, rfl⟩
    | false =>
      rw [if_neg (by simp [corrected])] at worked
      obtain ⟨-, rfl⟩ := EStateM.Result.ok.inj worked
      exact .inr ⟨corrected, rfl⟩
  | custom layer =>
    obtain ⟨-, rfl⟩ := EStateM.Result.ok.inj returned
    exact .inr ⟨rfl, rfl⟩

end Draft

namespace Outlook

/-- A bank gives of a packet what an outlook says. -/
structure Holds (outlook : Outlook) (chain : Nat) (bank : Bank Cell Cell.Value)
    (packet : Packet) : Prop where
  /-- Its bytes. -/
  bytes : packet.BytesReady chain bank ↔ outlook.bytes
  /-- Its length. -/
  length : packet.LengthReady chain bank ↔ outlook.length
  /-- Its bytes, after its length has been asked for. -/
  measuredBytes : packet.MeasuredReady chain bank ↔ outlook.measuredBytes

/-- Once the length has been had, the outlook is the one after the length. -/
theorem Holds.measured {outlook : Outlook} {packet : Packet} {computing : List Cell}
    {before after : Memory} {count : Nat} (holds : outlook.Holds chain before.bank packet)
    (denoted : packet.Denoted canon chain)
    (apart : ∀ cell ∈ computing, cell ∉ reach chain packet.depth 2)
    (coherent : before.bank.Coherent canon)
    (returned : Packet.length chain packet computing before = .ok count after) :
    outlook.measured.Holds chain after.bank packet := by
  have remembered := Packet.remembers_of_length returned
  have bytes : packet.BytesReady chain after.bank ↔ outlook.measuredBytes :=
    (Packet.length_leaves denoted apart coherent returned).trans holds.measuredBytes
  refine ⟨bytes, ?_, (Packet.measuredReady_iff_bytesReady remembered).trans bytes⟩
  exact iff_of_true (Packet.lengthReady_of_remembers remembered) trivial

/-- The outlook of a layer without a payload that remembers nothing. -/
theorem holds_bare {bank : Bank Cell Cell.Value} {layer : Layer}
    (vacant : bank.get? ⟨.packet chain 1, .length⟩ = none) :
    (Outlook.all.around layer (.bare layer)).Holds chain bank (.bare layer) := by
  have unremembered : ¬ Remembers chain bank (.bare layer) .length := by
    simp [Remembers, Bank.isFilled, Packet.object, Chain.depth, vacant]
  refine ⟨?_, ?_, ?_⟩
  · simp [BytesReady, Packet.Passes, unremembered, Outlook.around, all]
  · cases rule : layer.lengthRule <;>
      simp [LengthReady, BytesReady, Packet.Passes, unremembered, Outlook.around, all, rule]
  · simp [MeasuredReady, Outlook.around, all]

/-- The outlook of a layer that remembers nothing, around a payload. -/
theorem Holds.around {outlook : Outlook} {bank : Bank Cell Cell.Value} {layer : Layer}
    {payload : Packet} (holds : outlook.Holds chain bank payload)
    (vacant : ∀ view, bank.get? ⟨.packet chain (payload.depth + 1), view⟩ = none) :
    (outlook.around layer (.wrap layer payload)).Holds chain bank (.wrap layer payload) := by
  have unremembered : ∀ view, ¬ Remembers chain bank (.wrap layer payload) view := by
    intro view
    simp [Remembers, Bank.isFilled, Packet.object, Chain.depth, vacant]
  have bytes := holds.bytes
  have length := holds.length
  have measuredBytes := holds.measuredBytes
  refine ⟨?_, ?_, ?_⟩
  · simp [BytesReady, Packet.Passes, unremembered, Outlook.around, bytes]
  · cases rule : layer.lengthRule <;>
      simp [LengthReady, BytesReady, Packet.Passes, unremembered, Outlook.around, bytes, length,
        rule]
  · simp only [MeasuredReady, unremembered, Outlook.around, bytes, measuredBytes, false_or,
      not_false_eq_true, true_implies]

end Outlook

/-- What is reported before the payload is built touches no cell. -/
theorem Draft.announce_returns (draft : Draft) (memory : Memory) :
    ∃ reported, draft.announce [] memory = .ok () reported ∧ reported.bank = memory.bank := by
  cases draft with
  | ethernet draft => exact ⟨memory, rfl, rfl⟩
  | llcSnap header => exact ⟨_, rfl, rfl⟩
  | udp draft => exact ⟨memory, rfl, rfl⟩
  | custom layer => exact ⟨memory, rfl, rfl⟩

/-- How a draft becomes a layer around a packet of which a bank gives what an outlook says: the
layer is made if the length that the draft asks for, if any, can be had and fits. The packet is left
with the outlook after its length if that was asked for, and as it was otherwise. -/
theorem Draft.finish_outcome (draft : Draft) {packet : Packet} {outlook : Outlook}
    (denoted : packet.Denoted canon chain) {before : Memory}
    (coherent : before.bank.Coherent canon) (holds : outlook.Holds chain before.bank packet) :
    ∃ after, before.Advances (reach chain packet.depth 2) after ∧ after.bank.Coherent canon ∧
      (((draft.asksLength = true → outlook.length) ∧ draft.Fits packet.plainLength ∧
          draft.finish (packet.length chain) [] before =
            .ok (draft.plainFinish packet.plainLength) after ∧
          (if draft.asksLength then outlook.measured else outlook).Holds chain after.bank packet) ∨
        (¬ ((draft.asksLength = true → outlook.length) ∧ draft.Fits packet.plainLength) ∧
          ∃ cause interrupted, draft.finish (packet.length chain) [] before =
            .error (.failed cause interrupted) after)) := by
  have asking : Meets canon (packet.length chain)
      ⟨reach chain packet.depth 2, (packet.LengthReady chain ·), fun _ _ => True,
        packet.plainLength⟩ :=
    (Packet.length_meets denoted).weaken subset_rfl (fun _ _ => Iff.rfl) fun _ _ _ => trivial
  obtain ⟨after, advance, kept, outcome⟩ :=
    Draft.finish_meets asking (fun _ => trivial) [] before (List.forall_mem_nil _) coherent
  refine ⟨after, advance, kept, ?_⟩
  rcases outcome with ⟨⟨had, fits⟩, finished⟩ | ⟨unfit, cause, inner, failed, -⟩
  · refine .inl ⟨fun asks => holds.length.mp (had asks), fits, finished, ?_⟩
    rcases Draft.finish_eq_ok finished with ⟨asks, count, reached, answered, same⟩ | ⟨silent, same⟩
    · rw [if_pos asks, same]
      exact holds.measured denoted (List.forall_mem_nil _) coherent answered
    · rw [if_neg (by simp [silent]), same]
      exact holds
  · refine .inr ⟨fun ⟨known, fits⟩ => unfit ⟨fun asks => holds.length.mpr (known asks), fits⟩,
      cause, _, failed⟩

namespace Builder

/-- How a build goes under a chain number of which no cell is filled: it ends in a memory where
only cells inside the outermost layer have been filled, and either makes the packet with the
outlook of its builder, or fails because the builder is not buildable. -/
theorem build_outcome {builder : Builder} (denoted : builder.plainBuild.Denoted canon chain)
    {before : Memory} (fresh : ∀ depth view, before.bank.get? ⟨.packet chain depth, view⟩ = none)
    (coherent : before.bank.Coherent canon) :
    ∃ after, before.Advances (reach chain builder.depth 0) after ∧ after.bank.Coherent canon ∧
      ((builder.Buildable ∧ builder.build chain [] before = .ok builder.plainBuild after ∧
          builder.outlook.Holds chain after.bank builder.plainBuild) ∨
        (¬ builder.Buildable ∧ ∃ cause interrupted,
          builder.build chain [] before = .error (.failed cause interrupted) after)) := by
  induction builder generalizing before with
  | unknown data =>
    refine ⟨before, .refl _ before, coherent, .inl ⟨trivial, rfl, ?_⟩⟩
    exact ⟨Iff.rfl, Iff.rfl, Iff.rfl⟩
  | bare draft =>
    obtain ⟨reported, announced, unchanged⟩ := draft.announce_returns before
    have finishing : Meets canon (draft.finish (return 0))
        ⟨reach chain 1 0, fun _ => (draft.asksLength = true → True) ∧ draft.Fits 0,
          fun _ _ => True, draft.plainFinish 0⟩ :=
      Draft.finish_meets (.pure _ _ 0) fun _ => trivial
    obtain ⟨after, advance, kept, outcome⟩ :=
      finishing [] reported (List.forall_mem_nil _) (unchanged ▸ coherent)
    have whole := (Memo.State.Advances.of_bank_eq (reach chain 1 0) unchanged).trans advance
    rcases outcome with ⟨-, finished⟩ | ⟨unfit, -⟩
    · refine ⟨after, whole, kept, .inl ⟨trivial, ?_, ?_⟩⟩
      · simp only [build, Memo.Eval.bind_apply, announced, finished, Memo.Eval.pure_apply,
          plainBuild]
      · refine Outlook.holds_bare ?_
        rw [whole.spares _ (by simp)]
        exact fresh 1 .length
    · exact absurd ⟨fun _ => trivial, draft.fits_zero⟩ unfit
  | wrap draft payload ih =>
    obtain ⟨reported, announced, unchanged⟩ := draft.announce_returns before
    have within : reach chain payload.depth 2 ⊆ reach chain (payload.depth + 1) 0 :=
      reach_succ chain payload.depth 2
    obtain ⟨middle, entered, kept, inside⟩ := ih denoted.payload
      (fun depth view => unchanged ▸ fresh depth view) (unchanged ▸ coherent)
    have advanced : before.Advances (reach chain (payload.depth + 1) 0) middle :=
      (Memo.State.Advances.of_bank_eq _ unchanged).trans
        (entered.mono ((reach_mono chain _ (Nat.zero_le 2)).trans within))
    rcases inside with ⟨buildable, built, holds⟩ | ⟨unbuildable, cause, interrupted, failed⟩
    · obtain ⟨after, later, keptToo, outcome⟩ :=
        draft.finish_outcome denoted.payload kept holds
      rw [depth_plainBuild] at later
      have whole := advanced.trans (later.mono within)
      refine ⟨after, whole, keptToo, ?_⟩
      rcases outcome with ⟨asked, fits, finished, left⟩ | ⟨unfit, cause, interrupted, failed⟩
      · refine .inl ⟨⟨buildable, asked, fits⟩, ?_, left.around fun view => ?_⟩
        · simp only [build, Memo.Eval.bind_apply, announced, built, finished, Memo.Eval.pure_apply,
            plainBuild]
        · rw [whole.spares _ (by simp), depth_plainBuild]
          exact fresh (payload.depth + 1) view
      · refine .inr ⟨fun both => unfit both.2, cause, interrupted, ?_⟩
        simp only [build, Memo.Eval.bind_apply, announced, built, failed]
    · refine ⟨middle, advanced, kept, .inr ⟨fun both => unbuildable both.1, cause, interrupted, ?_⟩⟩
      simp only [build, Memo.Eval.bind_apply, announced, failed]

end Builder

end Encapsulation
