import Encapsulation.Proofs.Access.Build
import Encapsulation.Proofs.Access.Unfold
import Encapsulation.Proofs.Builder.LengthField

/-!
# Builds step by step

A build reports what it makes and asks new packets for their lengths, where a draft depends on them.
So it goes on in steps of any kind that let reports be logged and those lengths be had, also where it
fails in the end. The packets that it asks are those that the fields of the builder say.
-/
namespace Encapsulation

open Memo (Canon)
open Memo.Eval (Unfolds)
open Relation (ReflTransGen)

variable {step : Memory → Memory → Prop} {chain : Nat}

/-- Steps of some kind let anything but the building of bytes be reported. -/
def Tells (step : Memory → Memory → Prop) : Prop :=
  ∀ (memory : Memory) (event : Event), (∀ object kind count, event ≠ .bytesBuilt object kind count) →
    step memory { memory with events := memory.events.push event }

/-- What is reported before the payload is built is not the building of bytes. -/
theorem Draft.announce_unfolds (draft : Draft) (tells : Tells step) (before : Memory) :
    Unfolds step draft.announce before fun _ _ => True := by
  cases draft with
  | ethernet draft => exact .pure trivial
  | llcSnap header => exact .emit (tells before _ fun _ _ _ same => by cases same)
  | udp draft => exact .pure trivial
  | custom layer => exact .pure trivial

/-- A draft becomes a layer in steps of a kind in which the length of the payload is had, if it asks
for it. -/
theorem Draft.finish_unfolds (draft : Draft) {payloadLength : Access Nat} (tells : Tells step)
    (before : Memory)
    (inside : draft.asksLength = true → Unfolds step payloadLength before fun _ _ => True) :
    Unfolds step (draft.finish payloadLength) before fun _ _ => True := by
  have reported : ∀ (event : Event) (layer : Layer) (memory : Memory),
      (∀ object kind count, event ≠ .bytesBuilt object kind count) →
      Unfolds step (Memo.Eval.emit event >>= fun _ => pure layer : Access Layer)
        memory fun _ _ => True :=
    fun event layer memory other => (Unfolds.emit (tells memory event other)).map fun _ _ _ => trivial
  cases draft with
  | ethernet draft =>
    exact (inside rfl).bind fun _ middle _ _ =>
      reported _ _ middle fun _ _ _ same => by cases same
  | llcSnap header => exact .pure trivial
  | udp draft =>
    rw [finish_udp]
    have lengthField : Unfolds step
        (if draft.correctLength then
          payloadLength >>= fun length => UInt16.ofNat <$> Access.addLengths UdpHeader.size length
        else pure draft.length)
        before fun _ _ => True := by
      by_cases corrected : draft.correctLength = true
      · rw [if_pos corrected]
        refine (inside corrected).bind fun length middle _ _ => ?_
        have summed : Unfolds step (Access.addLengths UdpHeader.size length) middle
            fun _ _ => True := Access.addLengths_unfolds trivial _ _
        rw [map_eq_pure_bind]
        exact summed.map fun _ _ _ => trivial
      · rw [if_neg corrected]
        exact .pure trivial
    exact lengthField.bind fun _ middle _ _ => reported _ _ middle fun _ _ _ same => by cases same
  | custom layer => exact .pure trivial

/-- A build under a chain number of which no cell is filled goes on in steps of a kind in which the
lengths that drafts ask for are had. -/
theorem Builder.steps_build {canon : Canon Cell Cell.Value} {builder : Builder} (tells : Tells step)
    (denoted : builder.plainBuild.Denoted canon chain)
    (asked : ∀ (draft : Draft) (payload : Builder), .wrap draft payload ∈ builder.walk →
      draft.asksLength = true → ∀ memory,
        Unfolds step (Packet.length chain payload.plainBuild) memory fun _ _ => True)
    {before : Memory} (empty : ∀ depth view, before.bank.get? ⟨.packet chain depth, view⟩ = none)
    (coherent : before.bank.Coherent canon) :
    ReflTransGen step before ((builder.build chain).perform before).2 := by
  induction builder generalizing before with
  | unknown data => exact .refl
  | bare draft =>
    have finished : Unfolds step (Builder.build chain (.bare draft)) before fun _ _ => True :=
      (draft.announce_unfolds tells before).bind fun _ middle _ _ =>
        (draft.finish_unfolds tells middle fun _ => .pure trivial).map fun _ _ _ => trivial
    exact finished.steps_perform
  | wrap draft payload ih =>
    obtain ⟨reported, announced, unchanged⟩ := draft.announce_returns before
    have front : ReflTransGen step before reported := by
      have steps := (draft.announce_unfolds tells before).steps_perform
      rwa [Memo.Eval.perform, announced] at steps
    have emptyStill : ∀ depth view, reported.bank.get? ⟨.packet chain depth, view⟩ = none :=
      fun depth view => unchanged ▸ empty depth view
    have coherentStill : reported.bank.Coherent canon := unchanged ▸ coherent
    have inside := ih denoted.payload
      (fun inner within member => asked inner within (Chain.mem_walk_wrap member))
      emptyStill coherentStill
    obtain ⟨middle, -, -, outcome⟩ := build_outcome denoted.payload emptyStill coherentStill
    rcases outcome with ⟨-, built, -⟩ | ⟨-, cause, interrupted, failed⟩
    · have onward : (Builder.build chain (.wrap draft payload)).perform before =
          (draft.finish (Packet.length chain (plainBuild payload)) >>= fun layer =>
            pure (Chain.wrap layer (plainBuild payload))).perform middle := by
        simp only [build, Memo.Eval.perform, Memo.Eval.bind_apply, announced, built]
      rw [Memo.Eval.perform, built] at inside
      have finishing : Unfolds step
          (draft.finish (Packet.length chain (plainBuild payload)) >>= fun layer =>
            pure (Chain.wrap layer (plainBuild payload))) middle fun _ _ => True :=
        (draft.finish_unfolds tells middle fun asks =>
          asked draft payload (Chain.mem_walk_self _) asks middle).map fun _ _ _ => trivial
      rw [onward]
      exact (front.trans inside).trans finishing.steps_perform
    · have broken : ((Builder.build chain (.wrap draft payload)).perform before).2 = middle := by
        simp only [build, Memo.Eval.perform, Memo.Eval.bind_apply, announced, failed]
      rw [Memo.Eval.perform, failed] at inside
      rw [broken]
      exact front.trans inside

/-- The lengths that drafts of a builder ask for are had in steps that go by a book which lists the
packet that the fields of the builder say. -/
theorem Builder.asked_unfold {book : Book} {builder : Builder} (follows : Follows book step)
    (booked : builder.plainBuild.Booked book chain) (draft : Draft) (payload : Builder)
    (member : .wrap draft payload ∈ builder.walk) (memory : Memory) :
    Unfolds step (Packet.length chain payload.plainBuild) memory fun _ _ => True := by
  have within : payload.plainBuild ∈ builder.plainBuild.walk := by
    rw [walk_plainBuild]
    exact List.mem_map_of_mem
      (Chain.mem_walk_trans member (Chain.mem_walk_wrap payload.mem_walk_self))
  exact (Packet.read_unfolds follows (booked.inner within) .length memory).weaken
    fun _ _ _ => trivial

end Encapsulation
