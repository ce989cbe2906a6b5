import Encapsulation.Proofs.Memo.Contract
import Mathlib.Logic.Relation

/-!
# Evaluations step by step

A contract tells how an evaluation ends. Here an evaluation is followed on its way: from some state
it unfolds in steps of some kind if it gets to the state it leaves behind by such steps, whether it
returns or halts. What is known of a value is known in the bank in which it was returned; the
evaluations after it are told by which steps they were reached, and so what lasts.

Whatever is being computed around an evaluation stays empty: this is what allows `resolve` to fill
its cell in the end, however much was computed in between.
-/
namespace Encapsulation.Memo

open Relation (ReflTransGen)

variable {κ : Type} {β : κ → Type} [Ord κ] [Std.LawfulEqOrd κ] {ε φ α γ : Type}

/-- From a state, an evaluation goes on in steps of some kind, the empty cells that are being
computed around it stay empty, and if it returns, then with a result in the bank it leaves
behind. -/
def Eval.Unfolds (step : State κ β ε → State κ β ε → Prop) (evaluation : Eval κ β ε φ α)
    (before : State κ β ε) (result : α → Bank κ β → Prop) : Prop :=
  ∀ computing, ∃ after, ReflTransGen step before after ∧
    (∀ cell ∈ computing, before.bank.get? cell = none → after.bank.get? cell = none) ∧
    ((∃ value, evaluation computing before = .ok value after ∧ result value after.bank) ∨
      ∃ halt, evaluation computing before = .error halt after)

namespace Eval.Unfolds

variable {step : State κ β ε → State κ β ε → Prop} {before : State κ β ε}
  {known result : α → Bank κ β → Prop} {goal : γ → Bank κ β → Prop}

/-- More may be known of a value than is asked for. -/
theorem weaken {evaluation : Eval κ β ε φ α} (unfolds : Unfolds step evaluation before known)
    (enough : ∀ value bank, known value bank → result value bank) :
    Unfolds step evaluation before result := by
  intro computing
  obtain ⟨after, steps, vacant, outcome⟩ := unfolds computing
  refine ⟨after, steps, vacant, outcome.imp_left ?_⟩
  rintro ⟨value, returned, holds⟩
  exact ⟨value, returned, enough value after.bank holds⟩

/-- An evaluation that goes on in steps of some kind goes on in steps of every kind that has them. -/
theorem mono {larger : State κ β ε → State κ β ε → Prop} {evaluation : Eval κ β ε φ α}
    (unfolds : Unfolds step evaluation before known)
    (more : ∀ earlier later, step earlier later → larger earlier later) :
    Unfolds larger evaluation before known := by
  intro computing
  obtain ⟨after, steps, vacant, outcome⟩ := unfolds computing
  exact ⟨after, ReflTransGen.mono more _ _ steps, vacant, outcome⟩

/-- An evaluation that returns took steps, left empty what was being computed around it, and has a
result. -/
theorem of_eq_ok {evaluation : Eval κ β ε φ α} (unfolds : Unfolds step evaluation before known)
    {computing : List κ} {value : α} {after : State κ β ε}
    (returned : evaluation computing before = .ok value after) :
    ReflTransGen step before after ∧
      (∀ cell ∈ computing, before.bank.get? cell = none → after.bank.get? cell = none) ∧
      known value after.bank := by
  obtain ⟨reached, steps, vacant, ⟨other, answered, holds⟩ | ⟨halt, halted⟩⟩ := unfolds computing
  · obtain ⟨rfl, rfl⟩ := EStateM.Result.ok.inj (returned.symm.trans answered)
    exact ⟨steps, vacant, holds⟩
  · cases returned.symm.trans halted

/-- An evaluation that halts took steps, and left empty what was being computed around it. -/
theorem of_eq_error {evaluation : Eval κ β ε φ α} (unfolds : Unfolds step evaluation before known)
    {computing : List κ} {halt : Halt κ φ} {after : State κ β ε}
    (halted : evaluation computing before = .error halt after) :
    ReflTransGen step before after ∧
      ∀ cell ∈ computing, before.bank.get? cell = none → after.bank.get? cell = none := by
  obtain ⟨reached, steps, vacant, ⟨other, answered, -⟩ | ⟨cause, failed⟩⟩ := unfolds computing
  · cases halted.symm.trans answered
  · obtain ⟨rfl, rfl⟩ := EStateM.Result.error.inj (halted.symm.trans failed)
    exact ⟨steps, vacant⟩

/-- A plain value takes no step. -/
theorem pure {value : α} (holds : result value before.bank) :
    Unfolds step (Pure.pure value : Eval κ β ε φ α) before result :=
  fun _ => ⟨before, .refl, fun _ _ vacant => vacant, .inl ⟨value, rfl, holds⟩⟩

/-- An evaluation that fails at once takes no step. -/
theorem fail (cause : φ) : Unfolds step (Eval.fail cause : Eval κ β ε φ α) before result :=
  fun _ => ⟨before, .refl, fun _ _ vacant => vacant, .inr ⟨_, rfl⟩⟩

/-- Looking into a cell takes no step. -/
theorem peek {cell : κ} {result : Option (β cell) → Bank κ β → Prop}
    (holds : result (before.bank.get? cell) before.bank) :
    Unfolds step (Eval.peek cell : Eval κ β ε φ (Option (β cell))) before result :=
  fun _ => ⟨before, .refl, fun _ _ vacant => vacant, .inl ⟨_, rfl, holds⟩⟩

/-- An event is logged in one step. -/
theorem emit {event : ε} (logs : step before { before with events := before.events.push event }) :
    Unfolds step (Eval.emit event : Eval κ β ε φ Unit) before fun _ _ => True :=
  fun _ => ⟨_, .single logs, fun _ _ vacant => vacant, .inl ⟨(), rfl, trivial⟩⟩

/-- One evaluation after another: the second one unfolds from wherever the first one returned. -/
theorem bind {first : Eval κ β ε φ α} {second : α → Eval κ β ε φ γ}
    (head : Unfolds step first before known)
    (tail : ∀ value middle, ReflTransGen step before middle → known value middle.bank →
      Unfolds step (second value) middle goal) :
    Unfolds step (first >>= second) before goal := by
  intro computing
  obtain ⟨middle, steps, vacant, outcome⟩ := head computing
  rcases outcome with ⟨value, returned, holds⟩ | ⟨halt, halted⟩
  · obtain ⟨after, further, vacantStill, outcome⟩ := tail value middle steps holds computing
    refine ⟨after, steps.trans further, fun cell entered empty =>
      vacantStill cell entered (vacant cell entered empty), ?_⟩
    rw [Eval.bind_apply, returned]
    exact outcome
  · refine ⟨middle, steps, vacant, .inr ⟨halt, ?_⟩⟩
    rw [Eval.bind_apply, halted]

/-- What is made of the value of an evaluation in the end takes no step. -/
theorem map {evaluation : Eval κ β ε φ α} {value : α → γ}
    (unfolds : Unfolds step evaluation before known)
    (holds : ∀ result bank, known result bank → goal (value result) bank) :
    Unfolds step (evaluation >>= fun result => Pure.pure (value result)) before goal :=
  unfolds.bind fun result middle _ had => .pure (holds result middle.bank had)

/-- A cell whose computation, once it has its value, logs no more than what is told by the value: a
filled cell answers, and for an empty one logging and filling are one step. -/
theorem resolve_logged [Std.TransOrd κ] [DecidableEq κ] {cell : κ}
    {compute compose : Eval κ β ε φ (β cell)} {known : β cell → Bank κ β → Prop}
    (inside : Unfolds step compose before known) (log : β cell → Array ε → Array ε)
    (logged : ∀ computing, compute computing before =
      match compose computing before with
      | .ok value after => .ok value { after with events := log value after.events }
      | .error halt after => .error halt after)
    (fills : ∀ value state, state.bank.get? cell = none → known value state.bank →
      step state ⟨state.bank.fill cell value, log value state.events⟩) :
    Unfolds step (Eval.resolve cell compute) before
      fun value bank => bank.get? cell = some value := by
  intro computing
  cases content : before.bank.get? cell with
  | some held =>
    exact ⟨before, .refl, fun _ _ vacant => vacant,
      .inl ⟨held, Eval.resolve_of_eq_some compute computing content, content⟩⟩
  | none =>
    by_cases entered : cell ∈ computing
    · exact ⟨before, .refl, fun _ _ vacant => vacant,
        .inr ⟨_, Eval.resolve_of_mem compute content entered⟩⟩
    · obtain ⟨middle, steps, vacant, outcome⟩ := inside (cell :: computing)
      have vacantStill : middle.bank.get? cell = none := vacant cell List.mem_cons_self content
      have others : ∀ other ∈ computing, before.bank.get? other = none →
          middle.bank.get? other = none :=
        fun other around empty => vacant other (List.mem_cons_of_mem cell around) empty
      rw [Eval.resolve_of_eq_none compute content entered, logged]
      rcases outcome with ⟨value, returned, holds⟩ | ⟨halt, halted⟩
      · rw [returned]
        refine ⟨_, steps.tail (fills value middle vacantStill holds), ?_,
          .inl ⟨value, rfl, middle.bank.get?_fill_self cell value vacantStill⟩⟩
        intro other around empty
        have distinct : cell ≠ other := fun same => entered (same ▸ around)
        exact (middle.bank.get?_fill_of_ne value distinct).trans (others other around empty)
      · rw [halted]
        exact ⟨middle, steps, others, .inr ⟨halt, rfl⟩⟩

/-- A cell that is filled answers; an empty one is computed, and filling it with the value is a
step. Either way it holds the value in the end. -/
theorem resolve [Std.TransOrd κ] [DecidableEq κ] {cell : κ} {compute : Eval κ β ε φ (β cell)}
    {known : β cell → Bank κ β → Prop} (inside : Unfolds step compute before known)
    (fills : ∀ value state, state.bank.get? cell = none → known value state.bank →
      step state { state with bank := state.bank.fill cell value }) :
    Unfolds step (Eval.resolve cell compute) before
      fun value bank => bank.get? cell = some value := by
  refine inside.resolve_logged (fun _ events => events) (fun computing => ?_) fills
  cases compute computing before <;> rfl

/-- A cell whose computation reports its value in the end: the report and the filling of the cell
are one step. -/
theorem resolve_reported [Std.TransOrd κ] [DecidableEq κ] {cell : κ}
    {compose : Eval κ β ε φ (β cell)} {event : β cell → ε}
    {known : β cell → Bank κ β → Prop} (inside : Unfolds step compose before known)
    (builds : ∀ value state, state.bank.get? cell = none → known value state.bank →
      step state ⟨state.bank.fill cell value, state.events.push (event value)⟩) :
    Unfolds step
      (Eval.resolve cell
        (compose >>= fun value => Eval.emit (event value) >>= fun _ => Pure.pure value))
      before fun value bank => bank.get? cell = some value := by
  refine inside.resolve_logged (fun value events => events.push (event value))
    (fun computing => ?_) builds
  rw [Eval.bind_apply]
  cases compose computing before <;> rfl

/-- An evaluation that is run with nothing being computed around it takes steps to the state that it
leaves behind. -/
theorem steps_perform {evaluation : Eval κ β ε φ α} (unfolds : Unfolds step evaluation before known) :
    ReflTransGen step before (evaluation.perform before).2 := by
  obtain ⟨after, steps, -, outcome⟩ := unfolds []
  rcases outcome with ⟨value, returned, -⟩ | ⟨halt, halted⟩
  · rw [Eval.perform, returned]
    exact steps
  · rw [Eval.perform, halted]
    exact steps

end Eval.Unfolds

end Encapsulation.Memo
