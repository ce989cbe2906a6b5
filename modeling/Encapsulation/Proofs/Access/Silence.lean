import Encapsulation.Proofs.Access.Unfold
import Encapsulation.Proofs.Packet.Library

/-!
# Silent accesses

The length of a packet of the library is a sum of lengths, and its text shows lengths and data. So
neither of the two, and neither of those of its headers, asks for any bytes to be built, and nothing
is logged.
-/
namespace Encapsulation

open Memo.Eval (Unfolds)
open Relation (ReflTransGen)

/-- One memory after another, with the same log. -/
def Silent (before after : Memory) : Prop := after.events = before.events

/-- Any number of silent steps leaves the log as it is. -/
theorem Silent.many {before after : Memory} (steps : ReflTransGen Silent before after) :
    after.events = before.events := by
  induction steps with
  | refl => rfl
  | tail _ last ih => exact Eq.trans last ih

/-- One memory after another, with the same log, in which nothing is lost. -/
structure Calm (before after : Memory) : Prop where
  /-- Nothing is logged. -/
  silent : Silent before after
  /-- What is remembered is remembered still. -/
  keeps : ∀ cell, before.bank.isFilled cell = true → after.bank.isFilled cell = true

namespace Calm

/-- Any view is remembered calmly, at any time. -/
theorem lets (cell : Cell) (ready : Memo.Bank Cell Cell.Value → Prop) : Lets Calm cell ready :=
  fun memory value _ _ => ⟨rfl, fun other full =>
    (memory.bank.isFilled_fill_iff cell value other).mpr (.inr full)⟩

/-- Any view of a packet is remembered calmly. -/
theorem admits (chain : Nat) (packet : Packet) (view : View) : packet.Admits Calm chain view where
  retains _ _ calm := calm.keeps
  layers _ _ := lets _ _
  headers _ _ _ _ := lets _ _

/-- What goes on calmly goes on silently. -/
theorem silently {α : Type} {access : Access α} {before : Memory}
    {known : α → Memo.Bank Cell Cell.Value → Prop} (unfolds : Unfolds Calm access before known) :
    Unfolds Silent access before fun _ _ => True :=
  (unfolds.mono fun _ _ calm => calm.silent).weaken fun _ _ _ => trivial

end Calm

namespace Packet

variable {chain : Nat} {packet : Packet}

/-- No layer of a packet of the library has a header that a caller defines. -/
theorem Library.header_ne_custom {inner : Packet} (library : packet.Library)
    (member : inner ∈ packet.walk) (fields : CustomHeader) :
    inner.header? ≠ some (.custom fields) := by
  intro present
  obtain ⟨layer, outermost, given⟩ := Option.bind_eq_some_iff.mp present
  have known := (library.inner member).layer outermost
  cases layer with
  | custom layer => exact absurd known (Layer.not_library_custom layer)
  | _ => cases given

/-- No layer of a packet of the library is measured. -/
theorem Library.not_measured {inner : Packet} (library : packet.Library)
    (member : inner ∈ packet.walk) : ¬ inner.HasRule .measured := by
  rintro ⟨layer, outermost, rule⟩
  have composed := Layer.composed_of_library ((library.inner member).layer outermost)
  cases rule.symm.trans composed.rules.1

/-- The length of a packet of the library asks for nothing but lengths. -/
theorem Library.length_unfolds {step : Memory → Memory → Prop} (library : packet.Library)
    (admits : packet.Admits step chain .length) (before : Memory) :
    Unfolds step (length chain packet) before
      fun _ bank => bank.isFilled ⟨packet.object chain, .length⟩ = true :=
  Packet.length_unfolds admits before fun _ member measured =>
    absurd measured (library.not_measured member)

/-- The text of the header of a layer of the library is had calmly. -/
theorem Library.headerText_calm {inner : Packet} (library : packet.Library)
    (member : inner ∈ packet.walk) {header : Header} (present : inner.header? = some header)
    (object : Object) (before : Memory) :
    Unfolds Calm (header.text object) before
      fun _ bank => bank.isFilled ⟨object, .text⟩ = true := by
  refine header.text_unfolds (Calm.lets _ _) (Calm.lets _ _) before fun fields own => ?_
  exact absurd (own ▸ present) (library.header_ne_custom member fields)

/-- The length and the text of the header of a layer of the library are had silently. -/
theorem Library.header_silent {inner : Packet} (library : packet.Library)
    (member : inner ∈ packet.walk) {header : Header} (present : inner.header? = some header)
    (object : Object) (before : Memory) :
    Unfolds Silent (header.length object) before (fun _ _ => True) ∧
      Unfolds Silent (header.text object) before fun _ _ => True :=
  ⟨Calm.silently (header.length_unfolds (Calm.lets _ _) before),
    Calm.silently (library.headerText_calm member present object before)⟩

/-- The length of a packet of the library is had silently. -/
theorem Library.length_silent (library : packet.Library) (before : Memory) :
    Unfolds Silent (length chain packet) before fun _ _ => True :=
  Calm.silently (library.length_unfolds (Calm.admits chain packet .length) before)

/-- The text of a packet of the library is had silently. -/
theorem Library.text_silent (library : packet.Library) (before : Memory) :
    Unfolds Silent (text chain packet) before fun _ _ => True :=
  Calm.silently <|
    text_unfolds (Calm.admits chain packet .text) (Calm.admits chain packet .length) before
      fun inner member _ present => library.headerText_calm member present (inner.headerObject chain)

end Packet

end Encapsulation
