import Encapsulation.Memo.Eval
import Mathlib.Data.Set.Insert

/-!
# Guarded evaluations

While an evaluation runs, a cell is filled, or it is being computed, or it is empty. Asking for a
cell that is being computed would wait for itself. An evaluation is guarded if it never comes to
that, whatever the cells hold: it is put together from finitely many parts, and each cell that it
asks for is asked for while it is not being computed, neither around the evaluation nor by one of
the computations that ask for it. To look into a cell is not to ask for it. How deep computations
nest in it is counted beside that.

What an evaluation asks for is told by a region. An evaluation that asks within a region is guarded
wherever no cell of the region is being computed, so it is enough that each computation asks within
a region that its own cell lies outside of.
-/
namespace Encapsulation.Memo

variable {κ : Type} {β : κ → Type} [Ord κ] [Std.LawfulEqOrd κ] [DecidableEq κ] {ε φ α γ : Type}

/-- An evaluation returns a value from some state. -/
def Eval.MayReturn (evaluation : Eval κ β ε φ α) (value : α) : Prop :=
  ∃ computing before after, evaluation computing before = .ok value after

/-- While some cells are being computed around it, an evaluation asks only for cells that are not
being computed, and so do the computations of these. -/
inductive Eval.Guarded : {α : Type} → List κ → Eval κ β ε φ α → Prop where
  /-- A plain value asks for nothing. -/
  | pure {α : Type} (computing : List κ) (value : α) : Guarded computing (Pure.pure value)
  /-- An evaluation that fails at once asks for nothing. -/
  | fail {α : Type} (computing : List κ) (cause : φ) :
      Guarded computing (Eval.fail cause : Eval κ β ε φ α)
  /-- Logging an event asks for nothing. -/
  | emit (computing : List κ) (event : ε) : Guarded computing (Eval.emit event)
  /-- A cell may be looked into even while it is being computed. -/
  | peek (computing : List κ) (cell : κ) : Guarded computing (Eval.peek cell)
  /-- One evaluation after another, whatever the first one returns. -/
  | bind {α γ : Type} {computing : List κ} {first : Eval κ β ε φ α}
      {second : α → Eval κ β ε φ γ} (head : Guarded computing first)
      (tail : ∀ value, first.MayReturn value → Guarded computing (second value)) :
      Guarded computing (first >>= second)
  /-- A cell that is not being computed, and is while its computation runs. -/
  | resolve {computing : List κ} {cell : κ} {compute : Eval κ β ε φ (β cell)}
      (apart : cell ∉ computing) (inside : Guarded (cell :: computing) compute) :
      Guarded computing (Eval.resolve cell compute)

/-- An evaluation asks for cells whose computations ask for cells in turn, to a depth at most. -/
inductive Eval.Nests : {α : Type} → Nat → Eval κ β ε φ α → Prop where
  /-- A plain value asks for nothing. -/
  | pure {α : Type} (depth : Nat) (value : α) : Nests depth (Pure.pure value)
  /-- An evaluation that fails at once asks for nothing. -/
  | fail {α : Type} (depth : Nat) (cause : φ) : Nests depth (Eval.fail cause : Eval κ β ε φ α)
  /-- Logging an event asks for nothing. -/
  | emit (depth : Nat) (event : ε) : Nests depth (Eval.emit event)
  /-- Looking into a cell asks for nothing. -/
  | peek (depth : Nat) (cell : κ) : Nests depth (Eval.peek cell)
  /-- One evaluation after another goes no deeper than both. -/
  | bind {α γ : Type} {depth : Nat} {first : Eval κ β ε φ α} {second : α → Eval κ β ε φ γ}
      (head : Nests depth first)
      (tail : ∀ value, first.MayReturn value → Nests depth (second value)) :
      Nests depth (first >>= second)
  /-- Asking for a cell goes one deeper than its computation. -/
  | resolve {depth : Nat} {cell : κ} {compute : Eval κ β ε φ (β cell)}
      (inside : Nests depth compute) : Nests (depth + 1) (Eval.resolve cell compute)

/-- An evaluation ends for good: it returns, or fails for a cause of its own. The cells that were
being computed around it are as they were. If it fails, the cells that it was computing itself are
empty again, and each of them was being computed once. -/
def Eval.Ends (evaluation : Eval κ β ε φ α) (computing : List κ) (before : State κ β ε) : Prop :=
  ∃ after, (∀ cell ∈ computing, after.bank.get? cell = before.bank.get? cell) ∧
    ((∃ value, evaluation computing before = .ok value after) ∨
      ∃ cause inner,
        evaluation computing before = .error (.failed cause (inner ++ computing)) after ∧
        (∀ cell ∈ inner, after.bank.get? cell = none ∧ cell ∉ computing) ∧ inner.Nodup)

/-- A guarded evaluation ends from every state, and does not end in asking for a cell that is being
computed. -/
theorem Eval.Guarded.ends [Std.TransOrd κ] {computing : List κ} {evaluation : Eval κ β ε φ α}
    (guarded : Guarded computing evaluation) (before : State κ β ε) :
    evaluation.Ends computing before := by
  induction guarded generalizing before with
  | pure computing value => exact ⟨before, fun _ _ => rfl, .inl ⟨value, rfl⟩⟩
  | fail computing cause =>
    exact ⟨before, fun _ _ => rfl, .inr ⟨cause, [], rfl, by simp, .nil⟩⟩
  | emit computing event =>
    exact ⟨{ before with events := before.events.push event }, fun _ _ => rfl, .inl ⟨(), rfl⟩⟩
  | peek computing cell => exact ⟨before, fun _ _ => rfl, .inl ⟨_, rfl⟩⟩
  | @bind _ _ computing first second head tail ihHead ihTail =>
    obtain ⟨middle, kept, ⟨value, returned⟩ | ⟨cause, inner, failed, broken⟩⟩ := ihHead before
    · obtain ⟨after, keptToo, outcome⟩ := ihTail value ⟨computing, before, middle, returned⟩ middle
      refine ⟨after, fun cell around => (keptToo cell around).trans (kept cell around), ?_⟩
      rw [Eval.bind_apply, returned]
      exact outcome
    · refine ⟨middle, kept, .inr ⟨cause, inner, ?_, broken⟩⟩
      rw [Eval.bind_apply, failed]
  | @resolve computing cell compute apart inside ih =>
    cases content : before.bank.get? cell with
    | some held =>
      exact ⟨before, fun _ _ => rfl, .inl ⟨held, Eval.resolve_of_eq_some compute computing content⟩⟩
    | none =>
      unfold Eval.Ends
      rw [Eval.resolve_of_eq_none compute content apart]
      obtain ⟨middle, kept, ⟨value, returned⟩ | ⟨cause, inner, failed, broken, once⟩⟩ := ih before
      · rw [returned]
        refine ⟨_, fun other around => ?_, .inl ⟨value, rfl⟩⟩
        have distinct : cell ≠ other := fun same => apart (same ▸ around)
        exact (middle.bank.get?_fill_of_ne value distinct).trans
          (kept other (List.mem_cons_of_mem cell around))
      · -- The cell of the computation that broke off is empty still.
        rw [failed]
        refine ⟨middle, fun other around => kept other (List.mem_cons_of_mem cell around),
          .inr ⟨cause, inner ++ [cell], by simp, ?_, ?_⟩⟩
        · intro other member
          rcases List.mem_append.mp member with known | known
          · exact ⟨(broken other known).1,
              fun around => (broken other known).2 (List.mem_cons_of_mem cell around)⟩
          · rw [List.mem_singleton.mp known]
            exact ⟨(kept cell List.mem_cons_self).trans content, apart⟩
        · refine List.nodup_append.mpr ⟨once, by simp, ?_⟩
          rintro other known _ member rfl
          exact (broken other known).2 (List.mem_singleton.mp member ▸ List.mem_cons_self)

/-- An evaluation that goes to some depth at most goes to every greater depth at most. -/
theorem Eval.Nests.mono {depth more : Nat} {evaluation : Eval κ β ε φ α}
    (nests : Nests depth evaluation) (le : depth ≤ more) : Nests more evaluation := by
  induction nests generalizing more with
  | pure depth value => exact .pure more value
  | fail depth cause => exact .fail more cause
  | emit depth event => exact .emit more event
  | peek depth cell => exact .peek more cell
  | bind head tail ihHead ihTail =>
    exact .bind (ihHead le) fun value returned => ihTail value returned le
  | @resolve depth cell compute inside ih =>
    obtain ⟨less, rfl⟩ : ∃ less, more = less + 1 := ⟨more - 1, by omega⟩
    exact .resolve (ih (Nat.le_of_succ_le_succ le))

/-- At most so many computations as an evaluation nests deep are broken off by a failure. -/
theorem Eval.Nests.length_interrupted {depth : Nat} {evaluation : Eval κ β ε φ α}
    (nests : Nests depth evaluation) {computing interrupted : List κ} {cause : φ}
    {before after : State κ β ε}
    (failed : evaluation computing before = .error (.failed cause interrupted) after) :
    interrupted.length ≤ depth + computing.length := by
  induction nests generalizing computing before with
  | pure depth value => cases failed
  | emit depth event => cases failed
  | peek depth cell => cases failed
  | fail depth cause =>
    rw [Eval.fail_apply] at failed
    cases failed
    exact Nat.le_add_left _ _
  | bind head tail ihHead ihTail =>
    rcases Eval.bind_eq_error.mp failed with failed | ⟨value, middle, returned, failed⟩
    · exact ihHead failed
    · exact ihTail value ⟨computing, before, middle, returned⟩ failed
  | @resolve depth cell compute inside ih =>
    obtain ⟨-, reentered | failed⟩ := Eval.resolve_eq_error failed
    · cases reentered
    · have bound := ih failed
      rw [List.length_cons] at bound
      omega

/-- An evaluation asks for cells of a region only, to a depth at most: it is guarded wherever none
of these cells is being computed. -/
structure Eval.AsksWithin (evaluation : Eval κ β ε φ α) (region : Set κ) (depth : Nat) : Prop where
  /-- It is guarded wherever no cell of the region is being computed. -/
  guards : ∀ computing, (∀ cell ∈ computing, cell ∉ region) → Guarded computing evaluation
  /-- Computations nest in it to the depth at most. -/
  nests : Nests depth evaluation

namespace Eval.AsksWithin

variable {region larger front : Set κ} {depth more : Nat}

/-- An evaluation that asks within a region to a depth asks within a larger one to a greater
depth. -/
theorem widen {evaluation : Eval κ β ε φ α} (asks : evaluation.AsksWithin region depth)
    (within : region ⊆ larger) (le : depth ≤ more) : evaluation.AsksWithin larger more :=
  ⟨fun computing apart =>
    asks.guards computing fun cell around inside => apart cell around (within inside),
    asks.nests.mono le⟩

/-- Nothing is being computed around an evaluation at the start. -/
theorem guarded {evaluation : Eval κ β ε φ α} (asks : evaluation.AsksWithin region depth) :
    Guarded [] evaluation :=
  asks.guards [] (by simp)

/-- A plain value asks within every region. -/
theorem pure (region : Set κ) (depth : Nat) (value : α) :
    (Pure.pure value : Eval κ β ε φ α).AsksWithin region depth :=
  ⟨fun computing _ => .pure computing value, .pure depth value⟩

/-- An evaluation that fails at once asks within every region. -/
theorem fail (region : Set κ) (depth : Nat) (cause : φ) :
    (Eval.fail cause : Eval κ β ε φ α).AsksWithin region depth :=
  ⟨fun computing _ => .fail computing cause, .fail depth cause⟩

/-- Logging an event asks within every region. -/
theorem emit (region : Set κ) (depth : Nat) (event : ε) :
    (Eval.emit event : Eval κ β ε φ Unit).AsksWithin region depth :=
  ⟨fun computing _ => .emit computing event, .emit depth event⟩

/-- Looking into a cell asks within every region. -/
theorem peek (region : Set κ) (depth : Nat) (cell : κ) :
    (Eval.peek cell : Eval κ β ε φ (Option (β cell))).AsksWithin region depth :=
  ⟨fun computing _ => .peek computing cell, .peek depth cell⟩

/-- One evaluation after another, where the second one depends on what the first one may return. -/
theorem bind_of_mayReturn {first : Eval κ β ε φ α} {second : α → Eval κ β ε φ γ}
    (head : first.AsksWithin region depth)
    (tail : ∀ value, first.MayReturn value → (second value).AsksWithin region depth) :
    (first >>= second).AsksWithin region depth :=
  ⟨fun computing apart => .bind (head.guards computing apart) fun value returned =>
    (tail value returned).guards computing apart,
    .bind head.nests fun value returned => (tail value returned).nests⟩

/-- One evaluation after another asks within the region of both. -/
theorem bind {first : Eval κ β ε φ α} {second : α → Eval κ β ε φ γ}
    (head : first.AsksWithin region depth)
    (tail : ∀ value, (second value).AsksWithin region depth) :
    (first >>= second).AsksWithin region depth :=
  head.bind_of_mayReturn fun value _ => tail value

/-- What is made of the value of an evaluation asks for no more. -/
theorem map {evaluation : Eval κ β ε φ α} (asks : evaluation.AsksWithin region depth)
    (make : α → γ) :
    (evaluation >>= fun value => Pure.pure (make value)).AsksWithin region depth :=
  asks.bind fun value => .pure region depth (make value)

/-- A cell of a region asks within it if its computation asks within a part of the region that the
cell itself lies outside of, and goes one deeper. -/
theorem resolve {cell : κ} {compute : Eval κ β ε φ (β cell)}
    (inside : compute.AsksWithin front depth) (within : front ⊆ region) (member : cell ∈ region)
    (fresh : cell ∉ front) : (Eval.resolve cell compute).AsksWithin region (depth + 1) := by
  refine ⟨fun computing apart => ?_, .resolve inside.nests⟩
  refine .resolve (fun around => apart cell around member) (inside.guards _ ?_)
  intro other around
  rcases List.mem_cons.mp around with rfl | around
  · exact fresh
  · exact fun front => apart other around (within front)

end Eval.AsksWithin

end Encapsulation.Memo
