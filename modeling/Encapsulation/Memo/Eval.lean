import Encapsulation.Memo.Bank

/-!
# Computations over write-once cells

An evaluation reads and fills the cells of a bank, logs events and may stop early. Whatever was
filled and logged before it stops stays so. `resolve` is the one way to fill a cell: the cell
answers if it is filled, and otherwise a computation runs and its value fills the cell. A
computation that stops leaves its own cell empty, while cells that it filled on the way stay
filled. Every evaluation knows which cells are being computed around it, and asking for one of
those stops it.
-/
namespace Encapsulation.Memo

/-- Why an evaluation stops early. -/
inductive Halt (κ φ : Type) where
  /-- A cell was asked for while it was being computed. -/
  | reentered (cell : κ)
  /-- The evaluation failed for a cause of its own, while these cells were being computed, the
  innermost computation first. -/
  | failed (cause : φ) (interrupted : List κ)

/-- What evaluations work on: the cells and the events so far, oldest first. -/
structure State (κ : Type) (β : κ → Type) [Ord κ] (ε : Type) where
  /-- The cells. -/
  bank : Bank κ β
  /-- The events so far. -/
  events : Array ε

/-- The state at the start: no cell is filled and no event is logged. -/
def State.initial {κ : Type} {β : κ → Type} [Ord κ] {ε : Type} : State κ β ε := ⟨.empty, #[]⟩

/-- An evaluation: given the cells being computed around it and a state, it ends with a value or
a halt, and with the state reached in either case. -/
abbrev Eval (κ : Type) (β : κ → Type) [Ord κ] (ε φ α : Type) : Type :=
  ReaderT (List κ) (EStateM (Halt κ φ) (State κ β ε)) α

namespace Eval

variable {κ : Type} {β : κ → Type} [Ord κ] {ε φ α : Type}

/-- Stop for a cause. -/
def fail (cause : φ) : Eval κ β ε φ α := do
  throw (.failed cause (← read))

/-- Log an event. -/
def emit (event : ε) : Eval κ β ε φ Unit :=
  modify fun state => { state with events := state.events.push event }

/-- A plain value leaves the state as it is. -/
theorem pure_apply (value : α) (computing : List κ) (state : State κ β ε) :
    (pure value : Eval κ β ε φ α) computing state = .ok value state := rfl

/-- One evaluation after another: the second goes on from the state and value of the first, and
does not happen if the first halts. -/
theorem bind_apply {γ : Type} (first : Eval κ β ε φ α) (second : α → Eval κ β ε φ γ)
    (computing : List κ) (state : State κ β ε) :
    (first >>= second) computing state =
      match first computing state with
      | .ok value reached => second value computing reached
      | .error halt reached => .error halt reached := by
  simp only [bind, ReaderT.bind, EStateM.bind]
  cases first computing state <;> rfl

/-- One evaluation after another returns if the first one does and the second one does from
there. -/
theorem bind_eq_ok {γ : Type} {first : Eval κ β ε φ α} {second : α → Eval κ β ε φ γ}
    {computing : List κ} {before after : State κ β ε} {result : γ} :
    (first >>= second) computing before = .ok result after ↔
      ∃ value middle, first computing before = .ok value middle ∧
        second value computing middle = .ok result after := by
  rw [bind_apply]
  constructor
  · intro answered
    cases front : first computing before with
    | ok value middle =>
      rw [front] at answered
      exact ⟨value, middle, rfl, answered⟩
    | error halt middle =>
      rw [front] at answered
      cases answered
  · rintro ⟨value, middle, front, answered⟩
    rw [front]
    exact answered

/-- One evaluation after another halts if the first one does, or if the second one does from where
the first one returned. -/
theorem bind_eq_error {γ : Type} {first : Eval κ β ε φ α} {second : α → Eval κ β ε φ γ}
    {computing : List κ} {before after : State κ β ε} {halt : Halt κ φ} :
    (first >>= second) computing before = .error halt after ↔
      first computing before = .error halt after ∨
        ∃ value middle, first computing before = .ok value middle ∧
          second value computing middle = .error halt after := by
  rw [bind_apply]
  cases front : first computing before with
  | ok value middle => simp [and_assoc]
  | error other middle => simp

/-- Failing tells which computations it interrupts. -/
theorem fail_apply (cause : φ) (computing : List κ) (state : State κ β ε) :
    (fail cause : Eval κ β ε φ α) computing state = .error (.failed cause computing) state := rfl

/-- Logging an event adds it to the events and returns. -/
theorem emit_apply (event : ε) (computing : List κ) (state : State κ β ε) :
    (emit event : Eval κ β ε φ Unit) computing state =
      .ok () { state with events := state.events.push event } := rfl

variable [Std.LawfulEqOrd κ]

/-- What a cell holds; nothing is computed. -/
def peek (cell : κ) : Eval κ β ε φ (Option (β cell)) := do
  return (← get).bank.get? cell

/-- What a cell holds, computed and filled in if the cell is empty. -/
def resolve [DecidableEq κ] (cell : κ) (compute : Eval κ β ε φ (β cell)) :
    Eval κ β ε φ (β cell) := fun computing state =>
  match state.bank.get? cell with
  | some value => .ok value state
  | none =>
    if cell ∈ computing then
      .error (.reentered cell) state
    else
      match compute (cell :: computing) state with
      | .ok value reached => .ok value { reached with bank := reached.bank.fill cell value }
      | .error halt reached => .error halt reached

/-- Looking into a cell leaves the state as it is. -/
theorem peek_apply (cell : κ) (computing : List κ) (state : State κ β ε) :
    (peek cell : Eval κ β ε φ (Option (β cell))) computing state =
      .ok (state.bank.get? cell) state := rfl

/-- A filled cell answers, and nothing is computed. -/
theorem resolve_of_eq_some [DecidableEq κ] {cell : κ} {value : β cell} {state : State κ β ε}
    (compute : Eval κ β ε φ (β cell)) (computing : List κ)
    (full : state.bank.get? cell = some value) :
    resolve cell compute computing state = .ok value state := by
  simp [resolve, full]

/-- An empty cell that is not being computed is filled with the value of its computation, if that
gives one. -/
theorem resolve_of_eq_none [DecidableEq κ] {cell : κ} {computing : List κ}
    {state : State κ β ε} (compute : Eval κ β ε φ (β cell))
    (vacant : state.bank.get? cell = none) (fresh : cell ∉ computing) :
    resolve cell compute computing state =
      match compute (cell :: computing) state with
      | .ok value reached => .ok value { reached with bank := reached.bank.fill cell value }
      | .error halt reached => .error halt reached := by
  simp [resolve, vacant, fresh]

/-- An empty cell that is being computed halts the evaluation. -/
theorem resolve_of_mem [DecidableEq κ] {cell : κ} {computing : List κ} {state : State κ β ε}
    (compute : Eval κ β ε φ (β cell)) (vacant : state.bank.get? cell = none)
    (entered : cell ∈ computing) :
    resolve cell compute computing state = .error (.reentered cell) state := by
  simp [resolve, vacant, entered]

/-- A cell answers if it is filled, or if its computation returns and fills it. -/
theorem resolve_eq_ok [DecidableEq κ] {cell : κ} {value : β cell}
    {compute : Eval κ β ε φ (β cell)} {computing : List κ} {before after : State κ β ε}
    (answered : resolve cell compute computing before = .ok value after) :
    (before.bank.get? cell = some value ∧ after = before) ∨
      (before.bank.get? cell = none ∧ ∃ middle,
        compute (cell :: computing) before = .ok value middle ∧
          after = { middle with bank := middle.bank.fill cell value }) := by
  unfold resolve at answered
  split at answered
  · next held content =>
    obtain ⟨rfl, rfl⟩ := EStateM.Result.ok.inj answered
    exact .inl ⟨content, rfl⟩
  · next vacant =>
    split at answered
    · cases answered
    · split at answered
      · next computed middle returned =>
        obtain ⟨rfl, rfl⟩ := EStateM.Result.ok.inj answered
        exact .inr ⟨vacant, middle, returned, rfl⟩
      · cases answered

/-- A cell that halts is empty, and is either being computed or halted by its computation. -/
theorem resolve_eq_error [DecidableEq κ] {cell : κ} {compute : Eval κ β ε φ (β cell)}
    {computing : List κ} {before after : State κ β ε} {halt : Halt κ φ}
    (halted : resolve cell compute computing before = .error halt after) :
    before.bank.get? cell = none ∧
      (halt = .reentered cell ∨ compute (cell :: computing) before = .error halt after) := by
  cases content : before.bank.get? cell with
  | some held => cases (resolve_of_eq_some compute computing content).symm.trans halted
  | none =>
    refine ⟨rfl, ?_⟩
    by_cases entered : cell ∈ computing
    · rw [resolve_of_mem compute content entered] at halted
      exact .inl (EStateM.Result.error.inj halted).1.symm
    · rw [resolve_of_eq_none compute content entered] at halted
      split at halted
      · cases halted
      · next cause reached failed =>
        obtain ⟨rfl, rfl⟩ := EStateM.Result.error.inj halted
        exact .inr failed

/-- Run an evaluation with no cell being computed around it. -/
def perform (evaluation : Eval κ β ε φ α) (state : State κ β ε) :
    Except (Halt κ φ) α × State κ β ε :=
  match evaluation [] state with
  | .ok value reached => (.ok value, reached)
  | .error halt reached => (.error halt, reached)

end Eval

end Encapsulation.Memo
