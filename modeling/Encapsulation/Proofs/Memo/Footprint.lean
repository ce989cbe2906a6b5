import Encapsulation.Proofs.Memo.Contract

/-!
# Evaluations with a footprint

A contract bounds the cells that an evaluation may fill. The footprint of an evaluation is exact: from
every coherent bank it returns, all cells of the footprint are filled in the end, and the others are
as they were.
-/
namespace Encapsulation.Memo

variable {κ : Type} {β : κ → Type} [Ord κ] [Std.LawfulEqOrd κ] {ε φ α γ : Type}

/-- From every coherent bank, with no cell of its footprint being computed, an evaluation returns a
value, fills the cells of its footprint that are empty, and touches no others. -/
def Eval.Fills (canon : Canon κ β) (evaluation : Eval κ β ε φ α) (cells : Set κ) (value : α) : Prop :=
  ∀ computing before, (∀ cell ∈ computing, cell ∉ cells) → before.bank.Coherent canon →
    ∃ after, evaluation computing before = .ok value after ∧ before.Advances cells after ∧
      after.bank.Coherent canon ∧ ∀ cell ∈ cells, after.bank.isFilled cell = true

namespace Eval.Fills

variable {canon : Canon κ β} {cells more : Set κ} {value : α} {result : γ}

/-- A plain value fills nothing. -/
theorem pure (canon : Canon κ β) (value : α) :
    Fills canon (Pure.pure value : Eval κ β ε φ α) ∅ value :=
  fun _ before _ coherent =>
    ⟨before, rfl, .refl ∅ before, coherent, fun _ member => absurd member (Set.notMem_empty _)⟩

/-- Logging an event fills nothing. -/
theorem emit (canon : Canon κ β) (event : ε) :
    Fills canon (Eval.emit event : Eval κ β ε φ Unit) ∅ () :=
  fun _ _ _ coherent =>
    ⟨_, rfl, .of_bank_eq ∅ rfl, coherent, fun _ member => absurd member (Set.notMem_empty _)⟩

/-- What is done with the value of an evaluation, if it touches nothing, does not change the
footprint. -/
theorem bind_idle {first : Eval κ β ε φ α} {second : α → Eval κ β ε φ γ}
    (head : Fills canon first cells value)
    (idle : ∀ computing (middle : State κ β ε), middle.bank.Coherent canon →
      second value computing middle = .ok result middle) :
    Fills canon (first >>= second) cells result := by
  intro computing before apart coherent
  obtain ⟨middle, returned, advance, kept, full⟩ := head computing before apart coherent
  refine ⟨middle, ?_, advance, kept, full⟩
  rw [Eval.bind_apply, returned]
  exact idle computing middle kept

/-- What is made of the value of an evaluation does not change the footprint. -/
theorem map {first : Eval κ β ε φ α} (head : Fills canon first cells value) (make : α → γ) :
    Fills canon (first >>= fun value => Pure.pure (make value)) cells (make value) :=
  head.bind_idle fun _ _ _ => rfl

/-- One evaluation after another leaves the footprints of both. -/
theorem bind {first : Eval κ β ε φ α} {second : α → Eval κ β ε φ γ}
    (head : Fills canon first cells value) (tail : Fills canon (second value) more result) :
    Fills canon (first >>= second) (cells ∪ more) result := by
  intro computing before apart coherent
  obtain ⟨middle, returned, advance, kept, full⟩ :=
    head computing before (fun cell entered inside => apart cell entered (.inl inside)) coherent
  obtain ⟨after, returnedToo, later, keptToo, fullToo⟩ :=
    tail computing middle (fun cell entered inside => apart cell entered (.inr inside)) kept
  refine ⟨after, ?_, (advance.mono Set.subset_union_left).trans (later.mono Set.subset_union_right),
    keptToo, ?_⟩
  · rw [Eval.bind_apply, returned]
    exact returnedToo
  · rintro cell (inside | inside)
    · obtain ⟨held, content⟩ := Option.isSome_iff_exists.mp (full cell inside)
      exact Option.isSome_iff_exists.mpr ⟨held, later.keeps cell held content⟩
    · exact fullToo cell inside

/-- A cell whose computation asks for no other cell is its own footprint. -/
theorem resolve [Std.TransOrd κ] [DecidableEq κ] {cell : κ} {value : β cell}
    {compute : Eval κ β ε φ (β cell)} (inside : Fills canon compute ∅ value)
    (laid : canon cell = some value) :
    Fills canon (Eval.resolve cell compute) {cell} value := by
  intro computing before apart coherent
  cases content : before.bank.get? cell with
  | some held =>
    have right : before.bank.get? cell = some value := coherent.get?_eq content laid
    refine ⟨before, Eval.resolve_of_eq_some compute computing right, .refl _ before, coherent, ?_⟩
    rintro other rfl
    exact Option.isSome_iff_exists.mpr ⟨value, right⟩
  | none =>
    have entered : cell ∉ computing := fun entered => apart cell entered (Set.mem_singleton cell)
    obtain ⟨middle, returned, advance, kept, -⟩ :=
      inside (cell :: computing) before (fun _ _ => Set.notMem_empty _) coherent
    have vacant : middle.bank.get? cell = none :=
      (advance.spares cell (Set.notMem_empty cell)).trans content
    refine ⟨{ middle with bank := middle.bank.fill cell value }, ?_,
      (advance.mono (Set.empty_subset _)).fill (Set.mem_singleton cell) value,
      kept.fill vacant laid, ?_⟩
    · rw [Eval.resolve_of_eq_none compute content entered, returned]
    · rintro other rfl
      exact Bank.isFilled_fill middle.bank other value

end Eval.Fills

end Encapsulation.Memo
