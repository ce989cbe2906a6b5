import Encapsulation.Proofs.Memo.Unfold

/-!
# Cells that need other cells

The value of a cell may be worked out from those of other cells. A bank is closed if every filled
cell has what it needs, and a state ripens if a cell is filled whose needs are filled already. A bank
that ripens stays closed, and cells outside the region in which it ripens stay as they are.
-/
namespace Encapsulation.Memo

open Relation (ReflTransGen)

variable {κ : Type} {β : κ → Type} [Ord κ] [Std.LawfulEqOrd κ] {ε : Type}

/-- Whatever a filled cell needs is filled. -/
def Bank.Closed (needs : κ → Set κ) (bank : Bank κ β) : Prop :=
  ∀ cell, bank.isFilled cell = true → ∀ needed ∈ needs cell, bank.isFilled needed = true

/-- A bank is closed under needs that are fewer. -/
theorem Bank.Closed.anti {needs fewer : κ → Set κ} {bank : Bank κ β} (closed : bank.Closed needs)
    (less : ∀ cell, fewer cell ⊆ needs cell) : bank.Closed fewer :=
  fun cell full needed member => closed cell full needed (less cell member)

/-- One state after another: a cell of a region is filled, after all that it needs, or only the log
changes. -/
inductive State.Ripens (needs : κ → Set κ) (region : Set κ) :
    State κ β ε → State κ β ε → Prop where
  /-- A cell is filled. -/
  | fill (state : State κ β ε) (cell : κ) (value : β cell) (events : Array ε)
    (inside : cell ∈ region) (ready : ∀ needed ∈ needs cell, state.bank.isFilled needed = true) :
    Ripens needs region state ⟨state.bank.fill cell value, events⟩
  /-- Nothing but the log changes. -/
  | log (state : State κ β ε) (events : Array ε) :
    Ripens needs region state ⟨state.bank, events⟩

variable [Std.TransOrd κ]

/-- After a cell was filled, the filled cells are this one and those that were filled before. -/
theorem Bank.isFilled_fill_iff (bank : Bank κ β) (cell : κ) (value : β cell) (other : κ) :
    (bank.fill cell value).isFilled other = true ↔
      other = cell ∨ bank.isFilled other = true := by
  by_cases same : cell = other
  · subst same
    exact iff_of_true (bank.isFilled_fill cell value) (.inl rfl)
  · rw [isFilled, bank.get?_fill_of_ne value same]
    exact ⟨.inr, fun known => known.resolve_left fun equal => same equal.symm⟩

namespace State.Ripens

variable {needs : κ → Set κ} {region : Set κ} {before after : State κ β ε}

/-- Every filled cell keeps what it holds. -/
theorem keeps (ripens : Ripens needs region before after) {cell : κ} {value : β cell}
    (full : before.bank.get? cell = some value) : after.bank.get? cell = some value := by
  cases ripens with
  | fill filled held events inside ready => exact before.bank.get?_fill_of_eq_some held full
  | log events => exact full

/-- A closed bank stays closed. -/
theorem closed (ripens : Ripens needs region before after) (closed : before.bank.Closed needs) :
    after.bank.Closed needs := by
  cases ripens with
  | fill filled held events inside ready =>
    intro cell full needed member
    rw [Bank.isFilled_fill_iff] at full ⊢
    rcases full with rfl | full
    · exact .inr (ready needed member)
    · exact .inr (closed cell full needed member)
  | log events => exact closed

/-- A closed bank that ripens in many steps stays closed. -/
theorem closed_many (steps : ReflTransGen (Ripens needs region) before after)
    (closed : before.bank.Closed needs) : after.bank.Closed needs := by
  induction steps with
  | refl => exact closed
  | tail _ step ih => exact step.closed ih

/-- A cell that comes to be filled while a bank ripens is one of the region. -/
theorem mem_of_filled (steps : ReflTransGen (Ripens needs region) before after) {cell : κ}
    (vacant : before.bank.get? cell = none) (full : after.bank.isFilled cell = true) :
    cell ∈ region := by
  induction steps with
  | refl =>
    rw [Bank.isFilled, vacant] at full
    cases full
  | tail _ step ih =>
    cases step with
    | fill filled held events inside ready =>
      rw [Bank.isFilled_fill_iff] at full
      rcases full with rfl | full
      · exact inside
      · exact ih full
    | log events => exact ih full

end State.Ripens

end Encapsulation.Memo
