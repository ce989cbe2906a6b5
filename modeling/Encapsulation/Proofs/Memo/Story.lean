import Encapsulation.Memo.Program

/-!
# Stories of cells

A story tells what happened to cells, in order: cells were made, their computations started and
returned, and cells that were asked for their value answered. A computation that started and is not
told to have returned broke off. A story replays if everything in it fits what the cell holds at
the time: computations run for empty cells only, and a cell answers with what it holds. So what a
cell holds is told by what it was made with and by the first of its computations that returned.
-/
namespace Encapsulation.Memo

variable {κ α : Type} [DecidableEq κ]

/-- What can happen to a cell. -/
inductive Happening (κ α : Type) where
  /-- The cell is made, in place of any earlier one, and starts with this. -/
  | made (cell : κ) (content : Option α)
  /-- The computation of the cell starts. -/
  | started (cell : κ)
  /-- The computation of the cell returns, and the cell is filled with the value. -/
  | returned (cell : κ) (value : α)
  /-- The cell is asked for its value and gives it without a computation. -/
  | answered (cell : κ) (value : α)

namespace Happening

/-- The cell to which something happens. -/
def cell : Happening κ α → κ
  | made cell _ => cell
  | started cell => cell
  | returned cell _ => cell
  | answered cell _ => cell

/-- Whether something can happen to a cell, by what the cell holds. -/
def Fits (happening : Happening κ α) (content : Option α) : Prop :=
  match happening with
  | made _ _ => True
  | started _ => content = none
  | returned _ _ => content = none
  | answered _ value => content = some value

/-- What a cell holds after something happened to it. -/
def leaves (happening : Happening κ α) (content : Option α) : Option α :=
  match happening with
  | made _ start => start
  | started _ => content
  | returned _ value => some value
  | answered _ _ => content

/-- What all cells hold after something happened to one of them. -/
def apply (happening : Happening κ α) (contents : κ → Option α) : κ → Option α :=
  fun cell => if cell = happening.cell then happening.leaves (contents cell) else contents cell

/-- The value that a computation of a cell returns when something happens, if it does. -/
def returnedBy (cell : κ) : Happening κ α → Option α
  | returned other value => if other = cell then some value else none
  | _ => none

/-- The cell whose computation starts when something happens, if one does. -/
def startedCell? : Happening κ α → Option κ
  | started cell => some cell
  | _ => none

/-- What happens to one cell leaves the others as they are. -/
theorem apply_of_ne (happening : Happening κ α) (contents : κ → Option α) {cell : κ}
    (other : cell ≠ happening.cell) : happening.apply contents cell = contents cell :=
  if_neg other

/-- What happens to a cell leaves it with what it then holds. -/
theorem apply_cell (happening : Happening κ α) (contents : κ → Option α) :
    happening.apply contents happening.cell = happening.leaves (contents happening.cell) :=
  if_pos rfl

/-- No cell changes when a computation starts. -/
theorem apply_started (cell : κ) (contents : κ → Option α) :
    (started cell).apply contents = contents :=
  funext fun _ => ite_self _

/-- No cell changes when one answers. -/
theorem apply_answered (cell : κ) (value : α) (contents : κ → Option α) :
    (answered cell value).apply contents = contents :=
  funext fun _ => ite_self _

end Happening

/-- A story leads from what cells hold to what they hold in the end, and everything in it fits. -/
def Replays : List (Happening κ α) → (κ → Option α) → (κ → Option α) → Prop
  | [], before, after => after = before
  | happening :: rest, before, after =>
    happening.Fits (before happening.cell) ∧ Replays rest (happening.apply before) after

/-- The value of the first computation of a cell that returned. -/
def firstReturned (cell : κ) (story : List (Happening κ α)) : Option α :=
  story.findSome? (Happening.returnedBy cell)

/-- The cells whose computations started, in order. -/
def startedCells (story : List (Happening κ α)) : List κ :=
  story.filterMap Happening.startedCell?

/-- A cell is not made in a story. -/
def Unmade (cell : κ) (story : List (Happening κ α)) : Prop :=
  ∀ content, Happening.made cell content ∉ story

omit [DecidableEq κ] in
/-- A cell that is not made in a story is not made in a part of it. -/
theorem Unmade.mono {cell : κ} {part story : List (Happening κ α)} (unmade : Unmade cell story)
    (within : part ⊆ story) : Unmade cell part :=
  fun content member => unmade content (within member)

/-- What happens first decides, if a computation of the cell returns by it. -/
theorem firstReturned_cons (cell : κ) (happening : Happening κ α) (rest : List (Happening κ α)) :
    firstReturned cell (happening :: rest) =
      (happening.returnedBy cell).or (firstReturned cell rest) := by
  rw [firstReturned, List.findSome?_cons]
  cases happening.returnedBy cell <;> rfl

/-- No computation of a cell returned exactly if there is no first one. -/
theorem firstReturned_eq_none_iff {cell : κ} {story : List (Happening κ α)} :
    firstReturned cell story = none ↔ ∀ value, Happening.returned cell value ∉ story := by
  rw [firstReturned, List.findSome?_eq_none_iff]
  constructor
  · intro never value member
    simpa [Happening.returnedBy] using never _ member
  · intro never happening member
    cases happening with
    | returned other value =>
      by_cases same : other = cell
      · exact absurd (same ▸ member) (never value)
      · simp [Happening.returnedBy, same]
    | _ => rfl

namespace Replays

variable {story front rest : List (Happening κ α)} {before middle after : κ → Option α} {cell : κ}

/-- One story after another. -/
theorem append (first : Replays front before middle) (second : Replays rest middle after) :
    Replays (front ++ rest) before after := by
  induction front generalizing before with
  | nil => exact (show middle = before from first) ▸ second
  | cons happening front ih => exact ⟨first.1, ih first.2⟩

/-- A story can be told in two parts. -/
theorem split (replays : Replays (front ++ rest) before after) :
    ∃ middle, Replays front before middle ∧ Replays rest middle after := by
  induction front generalizing before with
  | nil => exact ⟨before, rfl, replays⟩
  | cons happening front ih =>
    obtain ⟨middle, first, second⟩ := ih replays.2
    exact ⟨middle, ⟨replays.1, first⟩, second⟩

/-- A cell that is not made in a story holds what it held before, or else the value of its first
computation that returned. -/
theorem eq_or_firstReturned (replays : Replays story before after) (unmade : Unmade cell story) :
    after cell = (before cell).or (firstReturned cell story) := by
  induction story generalizing before with
  | nil =>
    obtain rfl : after = before := replays
    simp [firstReturned]
  | cons happening rest ih =>
    obtain ⟨fits, later⟩ := replays
    rw [ih later (unmade.mono (List.subset_cons_self happening rest)), firstReturned_cons]
    by_cases own : cell = happening.cell
    · subst own
      rw [Happening.apply_cell]
      cases happening with
      | made other content => exact absurd List.mem_cons_self (unmade content)
      | started other => rfl
      | answered other value => rfl
      | returned other value =>
        -- The cell was empty, and is filled with the value.
        rw [show before (Happening.returned other value).cell = none from fits]
        simp [Happening.leaves, Happening.returnedBy, Happening.cell]
    · rw [happening.apply_of_ne before own]
      have silent : happening.returnedBy cell = none := by
        cases happening with
        | returned other value => exact if_neg fun same => own same.symm
        | _ => rfl
      rw [silent, Option.none_or]

/-- A cell that was made holds what it was made with, or else the value of its first computation
that returned since. -/
theorem eq_or_firstReturned_since {content : Option α}
    (replays : Replays (front ++ .made cell content :: rest) before after)
    (unmade : Unmade cell rest) : after cell = content.or (firstReturned cell rest) := by
  obtain ⟨middle, -, -, later⟩ := replays.split
  rw [later.eq_or_firstReturned unmade]
  rw [show (Happening.made cell content).apply middle cell = content from
    (Happening.made cell content).apply_cell middle]

/-- A cell that is not made holds the value that a computation of it returned. -/
theorem eq_of_returned_mem {value : α} (replays : Replays story before after)
    (unmade : Unmade cell story) (member : .returned cell value ∈ story) :
    after cell = some value := by
  obtain ⟨front, rest, rfl⟩ := List.append_of_mem member
  obtain ⟨middle, -, -, later⟩ := replays.split
  have further : Unmade cell rest :=
    unmade.mono (List.subset_append_of_subset_right front (List.subset_cons_self _ rest))
  have filled : (Happening.returned cell value).apply middle cell = some value :=
    (Happening.returned cell value).apply_cell middle
  rw [later.eq_or_firstReturned further, filled, Option.some_or]

/-- A cell that is not made is empty if a computation of it started and none returned. -/
theorem eq_none_of_started_mem (replays : Replays story before after) (unmade : Unmade cell story)
    (member : .started cell ∈ story) (broken : ∀ value, .returned cell value ∉ story) :
    after cell = none := by
  obtain ⟨front, rest, rfl⟩ := List.append_of_mem member
  obtain ⟨middle, earlier, vacant, -⟩ := replays.split
  have silent : firstReturned cell (front ++ .started cell :: rest) = none :=
    firstReturned_eq_none_iff.mpr broken
  have silentBefore : firstReturned cell front = none :=
    firstReturned_eq_none_iff.mpr fun value known =>
      broken value (List.mem_append_left _ known)
  -- The cell was empty when the computation started, so it was empty at first.
  have first : before cell = none := by
    have held := earlier.eq_or_firstReturned (unmade.mono (List.subset_append_left front _))
    rw [show middle cell = none from vacant, silentBefore, Option.or_none] at held
    exact held.symm
  rw [replays.eq_or_firstReturned unmade, first, silent, Option.none_or]

/-- While a cell holds a value, nothing happens to it but that it is asked for the value and gives
it, until it is made anew. -/
theorem eq_answered_of_full {happening : Happening κ α} {value : α}
    (replays : Replays (front ++ happening :: rest) before after) (full : before cell = some value)
    (about : happening.cell = cell) (unmade : Unmade cell (front ++ [happening])) :
    happening = .answered cell value := by
  obtain ⟨middle, earlier, fits, -⟩ := replays.split
  have held : middle happening.cell = some value := by
    rw [about, earlier.eq_or_firstReturned (unmade.mono (List.subset_append_left _ _)), full,
      Option.some_or]
  subst about
  cases happening with
  | made other content => exact absurd (by simp [Happening.cell]) (unmade content)
  | started other => cases fits.symm.trans held
  | returned other found => cases fits.symm.trans held
  | answered other found =>
    obtain rfl := Option.some.inj (held.symm.trans fits)
    rfl

end Replays

end Encapsulation.Memo
