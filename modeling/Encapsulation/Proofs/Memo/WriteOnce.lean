import Encapsulation.Proofs.Memo.Guard
import Encapsulation.Proofs.Memo.Narration

/-!
# Cells are written once

A program makes cells, copies them, looks into them and computes them by recipes, which ask for
other cells to any depth and may break off anywhere. From its first moment on, a cell holds what it
was made with, or else the value of the first of its computations that returned; whoever asks for it
later is given that value, and no computation runs. A computation that breaks off leaves its cell
empty, to be computed again, and the cells that it filled on the way stay filled.
-/
namespace Encapsulation.Memo

variable {κ α : Type} [Ord κ] [Std.LawfulEqOrd κ] [DecidableEq κ]

/-- A recipe asks for no cell that is being computed, whatever the cells that it asks for give. -/
def Recipe.Avoids : List κ → Recipe κ α → Prop
  | _, give _ => True
  | _, abort _ => True
  | computing, ask cell inner next =>
    cell ∉ computing ∧ inner.Avoids (cell :: computing) ∧
      ∀ value, (next value).Avoids computing

/-- A cell that is not being computed can be asked for if its computation is guarded. -/
theorem askCell_guarded {computing : List κ} {cell : κ} {evaluation : Cooking κ α α}
    (apart : cell ∉ computing) (inside : Eval.Guarded (cell :: computing) evaluation) :
    Eval.Guarded computing (askCell cell evaluation) :=
  .resolve apart (.bind (.emit _ cell) fun _ _ => inside)

/-- A recipe that asks for no cell that is being computed is guarded. -/
theorem Recipe.Avoids.guarded {computing : List κ} {recipe : Recipe κ α}
    (avoids : recipe.Avoids computing) : Eval.Guarded computing recipe.follow := by
  induction recipe generalizing computing with
  | give value => exact .pure computing value
  | abort message => exact .fail computing message
  | ask cell inner next ihInner ihNext =>
    obtain ⟨apart, inside, onward⟩ := avoids
    exact .bind (askCell_guarded apart (ihInner inside)) fun value _ => ihNext value (onward value)

/-- What computing a cell by a recipe does, from the cells before it. -/
structure Computes (bank : Bank κ fun _ => α) (cell : κ) (recipe : Recipe κ α) : Prop where
  /-- A filled cell gives its value; no computation runs and no cell changes. -/
  answers : ∀ value, bank.get? cell = some value →
    (Step.compute cell recipe).take bank = (.computed value [], bank) ∧
      (Step.compute cell recipe).story bank = [.answered cell value]
  /-- The story is told by an evaluation that ends as the computation does, with the same cells, and
  in it start the computations that are logged. -/
  agrees :
    ((narrateCell cell recipe.narrate).perform ⟨bank, #[]⟩).1 =
        ((askCell cell recipe.follow).perform ⟨bank, #[]⟩).1 ∧
      ((narrateCell cell recipe.narrate).perform ⟨bank, #[]⟩).2.bank =
        ((askCell cell recipe.follow).perform ⟨bank, #[]⟩).2.bank ∧
      ((askCell cell recipe.follow).perform ⟨bank, #[]⟩).2.events.toList =
        startedCells ((Step.compute cell recipe).story bank)
  /-- The computation of an empty cell runs. -/
  starts : bank.get? cell = none →
    ∃ rest, (Step.compute cell recipe).story bank = .started cell :: rest
  /-- A value that is given is held from then on. -/
  returns : ∀ value started, ((Step.compute cell recipe).take bank).1 = .computed value started →
    ((Step.compute cell recipe).take bank).2.get? cell = some value
  /-- A computation that breaks off leaves its cell empty. -/
  stops : ∀ halt, ((Step.compute cell recipe).take bank).1 = .stopped halt →
    ((Step.compute cell recipe).take bank).2.get? cell = none
  /-- Every cell whose computation returned is filled with the value, even if the whole broke
  off. -/
  fills : ∀ other value, .returned other value ∈ (Step.compute cell recipe).story bank →
    ((Step.compute cell recipe).take bank).2.get? other = some value
  /-- Every cell whose computation started and did not return is empty. -/
  empties : ∀ other, .started other ∈ (Step.compute cell recipe).story bank →
    (∀ value, .returned other value ∉ (Step.compute cell recipe).story bank) →
    ((Step.compute cell recipe).take bank).2.get? other = none
  /-- It does not stop for a cell that is being computed, if the recipe asks for none. -/
  escapes : recipe.Avoids [cell] → ∀ other,
    ((Step.compute cell recipe).take bank).1 ≠ .stopped (.reentered other)

/-- What a step does, from the cells before it. -/
structure Step.Lawful (bank : Bank κ fun _ => α) (step : Step κ α) : Prop where
  /-- A new cell is empty. -/
  creates : ∀ cell, step = .create cell → (step.take bank).2.get? cell = none
  /-- A copy holds what its source holds. -/
  clones : ∀ source target, step = .clone source target →
    (step.take bank).2.get? target = bank.get? source
  /-- Looking into a cell shows what it holds; no computation runs and no cell changes. -/
  looks : ∀ cell, step = .look cell →
    step.take bank = (.holds (bank.get? cell), bank) ∧ step.story bank = []
  /-- A cell is computed by a recipe. -/
  computes : ∀ cell recipe, step = .compute cell recipe → Computes bank cell recipe
  /-- Cells that are not made and of which no computation returned stay as they are. -/
  spares : ∀ cell, Unmade cell (step.story bank) →
    (∀ value, .returned cell value ∉ step.story bank) →
    (step.take bank).2.get? cell = bank.get? cell

/-- What the cells hold in the course of a program. -/
structure WriteOnce (start : Bank κ fun _ => α) (program : List (Step κ α)) : Prop where
  /-- Every step does what it is to do to the cells that the steps before it left. -/
  lawful : ∀ earlier step later, program = earlier ++ step :: later →
    step.Lawful (runProgram start earlier).2
  /-- A cell that was there at the start holds what it held, or else the value of its first
  computation that returned. -/
  kept : ∀ cell, Unmade cell (storyOf start program) →
    (runProgram start program).2.get? cell =
      (start.get? cell).or (firstReturned cell (storyOf start program))
  /-- A cell that was made holds what it was made with, or else the value of its first computation
  that returned since. -/
  made : ∀ cell content earlier since,
    storyOf start program = earlier ++ .made cell content :: since → Unmade cell since →
    (runProgram start program).2.get? cell = content.or (firstReturned cell since)
  /-- Once a cell is filled, all that happens to it is that it is asked for its value and gives it,
  until it is made anew. -/
  once : ∀ cell value earlier between happening later first,
    storyOf start program = earlier ++ first :: (between ++ happening :: later) →
    first = .returned cell value ∨ first = .made cell (some value) →
    happening.cell = cell → Unmade cell (between ++ [happening]) →
    happening = .answered cell value
  /-- After a clone both cells go on from what the source held, each with its own computations
  only. -/
  apart : ∀ earlier source target later, program = earlier ++ .clone source target :: later →
    source ≠ target →
    let story := storyOf ((Step.clone source target).take (runProgram start earlier).2).2 later
    ∀ cell ∈ [source, target], Unmade cell story →
      (runProgram start program).2.get? cell =
        ((runProgram start earlier).2.get? source).or (firstReturned cell story)

section Computes

variable {bank : Bank κ fun _ => α} {cell : κ}

/-- A filled cell gives its value. -/
theorem take_compute_of_eq_some {value : α} (full : bank.get? cell = some value)
    (recipe : Recipe κ α) :
    (Step.compute cell recipe).take bank = (.computed value [], bank) ∧
      (Step.compute cell recipe).story bank = [.answered cell value] := by
  have answered : askCell cell recipe.follow [] ⟨bank, #[]⟩ = .ok value ⟨bank, #[]⟩ :=
    Eval.resolve_of_eq_some _ [] full
  have told : narrateCell cell recipe.narrate [] ⟨bank, #[]⟩ =
      .ok value ⟨bank, #[.answered cell value]⟩ := narrateCell_of_eq_some full recipe.narrate #[]
  constructor
  · simp [Step.take, Eval.perform, answered]
  · simp [Step.story, Eval.perform, told]

variable [Std.TransOrd κ]

/-- An empty cell is filled if its computation returns, and stays empty otherwise. -/
theorem take_compute_of_eq_none (vacant : bank.get? cell = none) (recipe : Recipe κ α) :
    (∃ rest, (Step.compute cell recipe).story bank = .started cell :: rest) ∧
      ∃ reached : Bank κ fun _ => α, reached.get? cell = none ∧
        ((∃ value started, (Step.compute cell recipe).take bank =
            (.computed value started, reached.fill cell value)) ∨
          ∃ halt, (Step.compute cell recipe).take bank = (.stopped halt, reached)) := by
  obtain ⟨news, reached, inside, outcome⟩ :=
    recipe.narrates.runs vacant List.not_mem_nil #[] #[]
  have still : reached.get? cell = none := (inside.keeps cell List.mem_cons_self).trans vacant
  rcases outcome with ⟨value, returned, narrated⟩ | ⟨halt, halted, narrated⟩
  · refine ⟨⟨news ++ [.returned cell value], ?_⟩, reached, still,
      .inl ⟨value, cell :: startedCells news, ?_⟩⟩
    · simp [Step.story, Eval.perform, narrated]
    · simp [Step.take, Eval.perform, returned]
  · refine ⟨⟨news, ?_⟩, reached, still, .inr ⟨halt, ?_⟩⟩
    · simp [Step.story, Eval.perform, narrated]
    · simp [Step.take, Eval.perform, halted]

/-- The story of a computation is told by an evaluation that ends as the computation does. -/
theorem tells_compute (bank : Bank κ fun _ => α) (cell : κ) (recipe : Recipe κ α) :
    Tells [] ((Step.compute cell recipe).story bank) bank ((Step.compute cell recipe).take bank).2 ∧
      ((narrateCell cell recipe.narrate).perform ⟨bank, #[]⟩).1 =
        ((askCell cell recipe.follow).perform ⟨bank, #[]⟩).1 ∧
      ((narrateCell cell recipe.narrate).perform ⟨bank, #[]⟩).2.bank =
        ((askCell cell recipe.follow).perform ⟨bank, #[]⟩).2.bank ∧
      ((askCell cell recipe.follow).perform ⟨bank, #[]⟩).2.events.toList =
        startedCells ((Step.compute cell recipe).story bank) := by
  obtain ⟨news, reached, tells, ⟨value, returned, narrated⟩ | ⟨halt, halted, narrated⟩⟩ :=
    recipe.narrates.cell cell [] bank #[] #[]
  · simpa [Step.take, Step.story, Eval.perform, returned, narrated] using tells
  · simpa [Step.take, Step.story, Eval.perform, halted, narrated] using tells

/-- A recipe that asks for no cell that is being computed does not stop for one. -/
theorem take_compute_of_avoids {recipe : Recipe κ α} (avoids : recipe.Avoids [cell]) (other : κ) :
    ((Step.compute cell recipe).take bank).1 ≠ .stopped (.reentered other) := by
  intro stopped
  have guarded : Eval.Guarded [] (askCell cell recipe.follow) :=
    askCell_guarded List.not_mem_nil avoids.guarded
  obtain ⟨after, -, ⟨value, returned⟩ | ⟨cause, inner, failed, -⟩⟩ := guarded.ends ⟨bank, #[]⟩
  · simp [Step.take, Eval.perform, returned] at stopped
  · simp [Step.take, Eval.perform, failed] at stopped

/-- Every cell is computed as it should be. -/
theorem Computes.of_bank (bank : Bank κ fun _ => α) (cell : κ) (recipe : Recipe κ α) :
    Computes bank cell recipe := by
  obtain ⟨tells, agrees⟩ := tells_compute bank cell recipe
  refine ⟨fun value full => take_compute_of_eq_some full recipe, agrees,
    fun vacant => (take_compute_of_eq_none vacant recipe).1, ?_, ?_,
    fun other value member => tells.replays.eq_of_returned_mem (tells.unmade other) member,
    fun other member broken =>
      tells.replays.eq_none_of_started_mem (tells.unmade other) member broken,
    take_compute_of_avoids⟩
  · intro value started computed
    cases content : bank.get? cell with
    | some held =>
      rw [(take_compute_of_eq_some content recipe).1] at computed ⊢
      cases computed
      exact content
    | none =>
      obtain ⟨-, reached, still, ⟨found, begun, took⟩ | ⟨halt, took⟩⟩ :=
        take_compute_of_eq_none content recipe
      · rw [took] at computed ⊢
        cases computed
        exact reached.get?_fill_self cell value still
      · rw [took] at computed
        cases computed
  · intro halt stopped
    cases content : bank.get? cell with
    | some held =>
      rw [(take_compute_of_eq_some content recipe).1] at stopped
      cases stopped
    | none =>
      obtain ⟨-, reached, still, ⟨found, begun, took⟩ | ⟨cause, took⟩⟩ :=
        take_compute_of_eq_none content recipe
      · rw [took] at stopped
        cases stopped
      · rw [took]
        exact still

end Computes

section Program

variable {start bank : Bank κ fun _ => α} [Std.TransOrd κ]

/-- Making a cell anew is a story of one line. -/
theorem replays_renew (bank : Bank κ fun _ => α) (cell : κ) (content : Option α) :
    Replays [.made cell content] bank.get? (bank.renew cell content).get? := by
  refine ⟨trivial, funext fun other => ?_⟩
  by_cases own : other = cell
  · subst own
    rw [bank.get?_renew_self]
    exact ((Happening.made other content).apply_cell bank.get?).symm
  · rw [bank.get?_renew_of_ne content (Ne.symm own)]
    exact ((Happening.made cell content).apply_of_ne bank.get? own).symm

/-- The story of a step replays. -/
theorem Step.replays (bank : Bank κ fun _ => α) (step : Step κ α) :
    Replays (step.story bank) bank.get? (step.take bank).2.get? := by
  cases step with
  | create cell => exact replays_renew bank cell none
  | clone source target => exact replays_renew bank target (bank.get? source)
  | look cell => exact rfl
  | compute cell recipe => exact (tells_compute bank cell recipe).1.replays

/-- The story of a program replays. -/
theorem replays_storyOf (bank : Bank κ fun _ => α) (program : List (Step κ α)) :
    Replays (storyOf bank program) bank.get? (runProgram bank program).2.get? := by
  induction program generalizing bank with
  | nil => exact rfl
  | cons step rest ih => exact (step.replays bank).append (ih (step.take bank).2)

/-- Every step does what it is to do. -/
theorem Step.lawful (bank : Bank κ fun _ => α) (step : Step κ α) : step.Lawful bank where
  creates cell same := by
    subst same
    exact bank.get?_renew_self cell none
  clones source target same := by
    subst same
    exact bank.get?_renew_self target (bank.get? source)
  looks cell same := by
    subst same
    exact ⟨rfl, rfl⟩
  computes cell recipe _ := .of_bank bank cell recipe
  spares cell unmade silent := by
    rw [(step.replays bank).eq_or_firstReturned unmade, firstReturned_eq_none_iff.mpr silent,
      Option.or_none]

omit [Std.TransOrd κ] in
/-- The cells after a program are those after its later part, run on the cells after its earlier
part. -/
theorem runProgram_append (bank : Bank κ fun _ => α) (earlier later : List (Step κ α)) :
    (runProgram bank (earlier ++ later)).2 = (runProgram (runProgram bank earlier).2 later).2 := by
  induction earlier generalizing bank with
  | nil => rfl
  | cons step rest ih => exact ih (step.take bank).2

/-- In every program, whatever the cells hold at the start, a cell holds the value of the first of
its computations that returned since it was made, or the value it was copied with; from then on it
gives that value and runs no computation. A computation that breaks off leaves its cell empty, to
run again, and leaves the cells filled whose computations returned; two cells go their own ways
after a clone; and looking changes nothing. -/
theorem cells_are_written_once (start : Bank κ fun _ => α) (program : List (Step κ α)) :
    WriteOnce start program := by
  have replays := replays_storyOf start program
  constructor
  case lawful =>
    intro earlier step later _
    exact step.lawful (runProgram start earlier).2
  case kept =>
    intro cell unmade
    exact replays.eq_or_firstReturned unmade
  case made =>
    intro cell content earlier since told unmade
    rw [told] at replays
    exact replays.eq_or_firstReturned_since unmade
  case once =>
    intro cell value earlier between happening later first told fills about unmade
    rw [told] at replays
    obtain ⟨middle, -, -, onward⟩ := replays.split
    refine onward.eq_answered_of_full ?_ about unmade
    rcases fills with rfl | rfl
    · exact (Happening.returned cell value).apply_cell middle
    · exact (Happening.made cell (some value)).apply_cell middle
  case apart =>
    rintro earlier source target later rfl distinct story cell member unmade
    let before := (runProgram start earlier).2
    have copied : ((Step.clone source target).take before).2.get? cell = before.get? source := by
      rcases List.mem_cons.mp member with rfl | member
      · exact before.get?_renew_of_ne _ distinct.symm
      · rw [List.mem_singleton.mp member]
        exact before.get?_renew_self target (before.get? source)
    have onward := (replays_storyOf _ later).eq_or_firstReturned unmade
    rw [runProgram_append, ← copied]
    exact onward

end Program

/-- A program in which a computation breaks off after it filled another cell, and a cell that is
copied while it is empty. -/
def relayProgram : List (Step Nat Nat) :=
  [.create 0, .create 1,
    .compute 0 (.ask 1 (.give 7) fun _ => .abort "broken"),
    .clone 0 2,
    .compute 0 (.ask 1 (.give 8) fun found => .give (found + 1)),
    .compute 2 (.give 5),
    .compute 2 (.abort "late")]

/-- The inner cell keeps its value, the computation that broke off runs again, and the copy goes
its own way. -/
theorem relayed_cells_are_written_once :
    WriteOnce .empty relayProgram ∧
      storyOf .empty relayProgram =
        [.made 0 none, .made 1 none, .started 0, .started 1, .returned 1 7, .made 2 none,
          .started 0, .answered 1 7, .returned 0 8, .started 2, .returned 2 5, .answered 2 5] ∧
      (runProgram .empty relayProgram).2.get? 0 = some 8 ∧
      (runProgram .empty relayProgram).2.get? 1 = some 7 ∧
      (runProgram .empty relayProgram).2.get? 2 = some 5 :=
  ⟨cells_are_written_once .empty relayProgram, by rfl, by rfl, by rfl, by rfl⟩

end Encapsulation.Memo
