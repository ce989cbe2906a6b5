import Encapsulation.Proofs.Memo.Story

/-!
# Programs and their stories

A narration is an evaluation that logs all that happens to cells, where the evaluation it stands
for logs only which computations start. The two agree: they end alike with the same cells, the
cells that started are those of the story, and the story replays.
-/
namespace Encapsulation.Memo

variable {κ α γ δ : Type} [Ord κ] [Std.LawfulEqOrd κ] [DecidableEq κ]

/-- Evaluations over cells of one type that log what happens to the cells. -/
abbrev Narration (κ α : Type) [Ord κ] : Type → Type := Eval κ (fun _ => α) (Happening κ α) String

/-- Ask a cell for its value, and tell what happens to it. -/
def narrateCell (cell : κ) (evaluation : Narration κ α α) : Narration κ α α := do
  let content ← Eval.peek cell
  content.forM fun value => Eval.emit (.answered cell value)
  Eval.resolve cell do
    Eval.emit (.started cell)
    let value ← evaluation
    Eval.emit (.returned cell value)
    return value

/-- Follow a recipe, and tell what happens to the cells. -/
def Recipe.narrate : Recipe κ α → Narration κ α α
  | give value => pure value
  | abort message => Eval.fail message
  | ask cell inner next => do
    let found ← narrateCell cell inner.narrate
    (next found).narrate

/-- What happens in a step. -/
def Step.story (bank : Bank κ fun _ => α) : Step κ α → List (Happening κ α)
  | create cell => [.made cell none]
  | clone source target => [.made target (bank.get? source)]
  | look _ => []
  | compute cell recipe => ((narrateCell cell recipe.narrate).perform ⟨bank, #[]⟩).2.events.toList

/-- What happens in a program. -/
def storyOf (bank : Bank κ fun _ => α) : List (Step κ α) → List (Happening κ α)
  | [] => []
  | step :: rest => step.story bank ++ storyOf (step.take bank).2 rest

/-- What happens while some cells are being computed takes one bank to another: it replays, no cell
is made, and the cells that are being computed stay as they are. -/
structure Tells (computing : List κ) (news : List (Happening κ α))
    (bank reached : Bank κ fun _ => α) : Prop where
  /-- The story replays. -/
  replays : Replays news bank.get? reached.get?
  /-- No cell is made. -/
  unmade : ∀ cell, Unmade cell news
  /-- The cells that are being computed stay as they are. -/
  keeps : ∀ cell ∈ computing, reached.get? cell = bank.get? cell

namespace Tells

variable {computing : List κ} {news later : List (Happening κ α)}
  {bank middle reached : Bank κ fun _ => α}

/-- Nothing happens. -/
theorem nil (computing : List κ) (bank : Bank κ fun _ => α) : Tells computing [] bank bank :=
  ⟨rfl, fun _ _ => List.not_mem_nil, fun _ _ => rfl⟩

/-- One thing happens after another. -/
theorem append (first : Tells computing news bank middle)
    (second : Tells computing later middle reached) :
    Tells computing (news ++ later) bank reached where
  replays := first.replays.append second.replays
  unmade cell content member := by
    rcases List.mem_append.mp member with earlier | further
    · exact first.unmade cell content earlier
    · exact second.unmade cell content further
  keeps cell around := (second.keeps cell around).trans (first.keeps cell around)

/-- A cell that is filled answers. -/
theorem answered {cell : κ} {value : α} (full : bank.get? cell = some value) :
    Tells computing [.answered cell value] bank bank where
  replays := ⟨full, (Happening.apply_answered cell value bank.get?).symm⟩
  unmade other content := by simp
  keeps _ _ := rfl

/-- The computation of an empty cell starts, other things happen while the cell is being computed,
and it returns. -/
theorem returned [Std.TransOrd κ] {cell : κ} (value : α) (vacant : bank.get? cell = none)
    (apart : cell ∉ computing) (inside : Tells (cell :: computing) news bank reached) :
    Tells computing (.started cell :: (news ++ [.returned cell value])) bank
      (reached.fill cell value) where
  replays := by
    have still : reached.get? cell = none := (inside.keeps cell List.mem_cons_self).trans vacant
    refine ⟨vacant, ?_⟩
    rw [Happening.apply_started]
    refine inside.replays.append ⟨still, funext fun other => ?_⟩
    by_cases own : other = cell
    · subst own
      rw [reached.get?_fill_self other value still]
      exact ((Happening.returned other value).apply_cell reached.get?).symm
    · rw [reached.get?_fill_of_ne value (Ne.symm own)]
      exact ((Happening.returned cell value).apply_of_ne reached.get? own).symm
  unmade other content member := by
    have inner : Happening.made other content ∈ news := by simpa using member
    exact inside.unmade other content inner
  keeps other around := by
    have distinct : cell ≠ other := fun same => apart (same ▸ around)
    exact (reached.get?_fill_of_ne value distinct).trans
      (inside.keeps other (List.mem_cons_of_mem cell around))

/-- The computation of an empty cell starts, other things happen while the cell is being computed,
and it breaks off. -/
theorem broken {cell : κ} (vacant : bank.get? cell = none)
    (inside : Tells (cell :: computing) news bank reached) :
    Tells computing (.started cell :: news) bank reached where
  replays := by
    refine ⟨vacant, ?_⟩
    rw [Happening.apply_started]
    exact inside.replays
  unmade other content member := by
    have inner : Happening.made other content ∈ news := by simpa using member
    exact inside.unmade other content inner
  keeps other around := inside.keeps other (List.mem_cons_of_mem cell around)

end Tells

/-- A narration and the evaluation it stands for end alike, after some news. -/
def Agree (log : Array κ) (story : Array (Happening κ α)) (news : List (Happening κ α))
    (reached : Bank κ fun _ => α)
    (plain : EStateM.Result (Halt κ String) (State κ (fun _ => α) κ) γ)
    (told : EStateM.Result (Halt κ String) (State κ (fun _ => α) (Happening κ α)) γ) : Prop :=
  (∃ value, plain = .ok value ⟨reached, log ++ (startedCells news).toArray⟩ ∧
    told = .ok value ⟨reached, story ++ news.toArray⟩) ∨
  ∃ halt, plain = .error halt ⟨reached, log ++ (startedCells news).toArray⟩ ∧
    told = .error halt ⟨reached, story ++ news.toArray⟩

omit [Std.LawfulEqOrd κ] [DecidableEq κ] in
/-- What a narration and its evaluation do after some news follows on these. -/
theorem Agree.after {log : Array κ} {story : Array (Happening κ α)}
    {news later : List (Happening κ α)} {reached : Bank κ fun _ => α}
    {plain : EStateM.Result (Halt κ String) (State κ (fun _ => α) κ) γ}
    {told : EStateM.Result (Halt κ String) (State κ (fun _ => α) (Happening κ α)) γ}
    (agree : Agree (log ++ (startedCells news).toArray) (story ++ news.toArray) later reached plain
      told) : Agree log story (news ++ later) reached plain told := by
  simpa [Agree, startedCells] using agree

/-- A narration stands for an evaluation: wherever both start, they end alike after the same
news. -/
def Narrates (told : Narration κ α γ) (plain : Cooking κ α γ) : Prop :=
  ∀ computing bank log story, ∃ news reached, Tells computing news bank reached ∧
    Agree log story news reached (plain computing ⟨bank, log⟩) (told computing ⟨bank, story⟩)

namespace Narrates

/-- A plain value has no news. -/
theorem pure (value : γ) : Narrates (Pure.pure value : Narration κ α γ) (Pure.pure value) := by
  intro computing bank log story
  refine ⟨[], bank, .nil computing bank, .inl ⟨value, ?_, ?_⟩⟩
  · simp [Eval.pure_apply, startedCells]
  · simp [Eval.pure_apply]

/-- Breaking off at once has no news. -/
theorem fail (message : String) :
    Narrates (Eval.fail message : Narration κ α γ) (Eval.fail message) := by
  intro computing bank log story
  refine ⟨[], bank, .nil computing bank, .inr ⟨.failed message computing, ?_, ?_⟩⟩
  · simp [Eval.fail_apply, startedCells]
  · simp [Eval.fail_apply]

/-- The news of one evaluation come before those of the next. -/
theorem bind {told : Narration κ α γ} {plain : Cooking κ α γ} {toldNext : γ → Narration κ α δ}
    {plainNext : γ → Cooking κ α δ} (head : Narrates told plain)
    (tail : ∀ value, Narrates (toldNext value) (plainNext value)) :
    Narrates (told >>= toldNext) (plain >>= plainNext) := by
  intro computing bank log story
  obtain ⟨news, middle, tells, agree⟩ := head computing bank log story
  rw [Eval.bind_apply, Eval.bind_apply]
  rcases agree with ⟨value, returned, narrated⟩ | ⟨halt, halted, narrated⟩
  · rw [returned, narrated]
    obtain ⟨later, reached, further, agree⟩ := tail value computing middle _ _
    exact ⟨news ++ later, reached, tells.append further, agree.after⟩
  · rw [halted, narrated]
    exact ⟨news, middle, tells, .inr ⟨halt, rfl, rfl⟩⟩

end Narrates

section Cell

variable {cell : κ} {computing : List κ} {bank : Bank κ fun _ => α}

/-- A filled cell is told to answer. -/
theorem narrateCell_of_eq_some {value : α} (full : bank.get? cell = some value)
    (evaluation : Narration κ α α) (story : Array (Happening κ α)) :
    narrateCell cell evaluation computing ⟨bank, story⟩ =
      .ok value ⟨bank, story.push (.answered cell value)⟩ := by
  simp only [narrateCell, Eval.bind_apply, Eval.peek_apply, full]
  exact Eval.resolve_of_eq_some _ computing full

/-- An empty cell that is being computed halts, and nothing is told. -/
theorem narrateCell_of_mem (vacant : bank.get? cell = none) (entered : cell ∈ computing)
    (evaluation : Narration κ α α) (story : Array (Happening κ α)) :
    narrateCell cell evaluation computing ⟨bank, story⟩ =
      .error (.reentered cell) ⟨bank, story⟩ := by
  simp only [narrateCell, Eval.bind_apply, Eval.peek_apply, vacant]
  exact Eval.resolve_of_mem _ vacant entered

/-- The computation of an empty cell is told to start, and if it returns, to return. -/
theorem narrateCell_of_eq_none (vacant : bank.get? cell = none) (apart : cell ∉ computing)
    (evaluation : Narration κ α α) (story : Array (Happening κ α)) :
    narrateCell cell evaluation computing ⟨bank, story⟩ =
      match evaluation (cell :: computing) ⟨bank, story.push (.started cell)⟩ with
      | .ok value reached =>
        .ok value ⟨reached.bank.fill cell value, reached.events.push (.returned cell value)⟩
      | .error halt reached => .error halt reached := by
  simp only [narrateCell, Eval.bind_apply, Eval.peek_apply, vacant]
  refine (Eval.resolve_of_eq_none _ vacant apart).trans ?_
  simp only [Eval.bind_apply, Eval.emit_apply, Eval.pure_apply]
  cases evaluation (cell :: computing) ⟨bank, story.push (.started cell)⟩ <;> rfl

/-- The computation of an empty cell logs that it starts, and fills the cell if it returns. -/
theorem askCell_of_eq_none (vacant : bank.get? cell = none) (apart : cell ∉ computing)
    (evaluation : Cooking κ α α) (log : Array κ) :
    askCell cell evaluation computing ⟨bank, log⟩ =
      match evaluation (cell :: computing) ⟨bank, log.push cell⟩ with
      | .ok value reached => .ok value { reached with bank := reached.bank.fill cell value }
      | .error halt reached => .error halt reached := by
  refine (Eval.resolve_of_eq_none _ vacant apart).trans ?_
  simp only [Eval.bind_apply, Eval.emit_apply]
  cases evaluation (cell :: computing) ⟨bank, log.push cell⟩ <;> rfl

/-- A computation of an empty cell ran: it was told to start, then came other news while the cell
was being computed, and it returned and filled the cell, or broke off. -/
def Runs (computing : List κ) (cell : κ) (bank : Bank κ fun _ => α) (log : Array κ)
    (story : Array (Happening κ α))
    (plain : EStateM.Result (Halt κ String) (State κ (fun _ => α) κ) α)
    (told : EStateM.Result (Halt κ String) (State κ (fun _ => α) (Happening κ α)) α) : Prop :=
  ∃ news reached, Tells (cell :: computing) news bank reached ∧
    ((∃ value,
        plain = .ok value ⟨reached.fill cell value, log ++ (cell :: startedCells news).toArray⟩ ∧
        told = .ok value ⟨reached.fill cell value,
          story ++ (.started cell :: (news ++ [.returned cell value])).toArray⟩) ∨
      ∃ halt, plain = .error halt ⟨reached, log ++ (cell :: startedCells news).toArray⟩ ∧
        told = .error halt ⟨reached, story ++ (.started cell :: news).toArray⟩)

/-- An empty cell that is asked for while it is not being computed runs its computation. -/
theorem Narrates.runs {evaluation : Narration κ α α} {plain : Cooking κ α α}
    (narrates : Narrates evaluation plain) (vacant : bank.get? cell = none)
    (apart : cell ∉ computing) (log : Array κ) (story : Array (Happening κ α)) :
    Runs computing cell bank log story (askCell cell plain computing ⟨bank, log⟩)
      (narrateCell cell evaluation computing ⟨bank, story⟩) := by
  obtain ⟨news, reached, tells, agree⟩ :=
    narrates (cell :: computing) bank (log.push cell) (story.push (.started cell))
  rw [askCell_of_eq_none vacant apart, narrateCell_of_eq_none vacant apart]
  refine ⟨news, reached, tells, ?_⟩
  rcases agree with ⟨value, returned, narrated⟩ | ⟨halt, halted, narrated⟩
  · rw [returned, narrated]
    exact .inl ⟨value, by simp, by simp⟩
  · rw [halted, narrated]
    exact .inr ⟨halt, by simp, by simp⟩

end Cell

/-- Asking a cell is narrated if its computation is. -/
theorem Narrates.cell [Std.TransOrd κ] {evaluation : Narration κ α α} {plain : Cooking κ α α}
    (narrates : Narrates evaluation plain) (cell : κ) :
    Narrates (narrateCell cell evaluation) (askCell cell plain) := by
  intro computing bank log story
  cases content : bank.get? cell with
  | some value =>
    refine ⟨[.answered cell value], bank, .answered content, .inl ⟨value, ?_, ?_⟩⟩
    · rw [askCell, Eval.resolve_of_eq_some _ computing content]
      simp [startedCells, Happening.startedCell?]
    · rw [narrateCell_of_eq_some content]
      simp
  | none =>
    by_cases entered : cell ∈ computing
    · refine ⟨[], bank, .nil computing bank, .inr ⟨.reentered cell, ?_, ?_⟩⟩
      · rw [askCell, Eval.resolve_of_mem _ content entered]
        simp [startedCells]
      · rw [narrateCell_of_mem content entered]
        simp
    · obtain ⟨news, reached, inside, outcome⟩ := narrates.runs content entered log story
      rcases outcome with ⟨value, returned, narrated⟩ | ⟨halt, halted, narrated⟩
      · refine ⟨_, _, inside.returned value content entered, .inl ⟨value, ?_, narrated⟩⟩
        rw [returned]
        simp [startedCells, Happening.startedCell?, List.filterMap_cons]
      · refine ⟨_, _, inside.broken content, .inr ⟨halt, ?_, narrated⟩⟩
        rw [halted]
        simp [startedCells, Happening.startedCell?]

/-- The narration of a recipe stands for the recipe. -/
theorem Recipe.narrates [Std.TransOrd κ] (recipe : Recipe κ α) :
    Narrates recipe.narrate recipe.follow := by
  induction recipe with
  | give value => exact .pure value
  | abort message => exact .fail message
  | ask cell inner next ihInner ihNext => exact (ihInner.cell cell).bind ihNext

end Encapsulation.Memo
