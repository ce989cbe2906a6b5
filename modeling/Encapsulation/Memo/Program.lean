import Encapsulation.Memo.Eval
import Encapsulation.Text.Record

/-!
# Programs over named cells

A recipe is a computation of a value: it gives a value, breaks off, or first asks another cell,
which is computed by a recipe of its own if it is empty. A program is a list of steps, each of
which makes a cell, copies one, looks into one, or computes one by a recipe. The log of a step
names the cells whose recipes were started, in order.
-/
namespace Encapsulation.Memo

/-- How the value of a cell is computed. -/
inductive Recipe (κ α : Type) where
  /-- Give a value. -/
  | give (value : α)
  /-- Break off with a message. -/
  | abort (message : String)
  /-- Ask another cell, computed by the inner recipe if it is empty, and go on with its value. -/
  | ask (cell : κ) (inner : Recipe κ α) (next : α → Recipe κ α)

/-- Evaluations over cells of one type: they log the cells whose recipes start and break off with
a message. -/
abbrev Cooking (κ α : Type) [Ord κ] : Type → Type := Eval κ (fun _ => α) κ String

/-- One step of a program. -/
inductive Step (κ α : Type) where
  /-- A new empty cell in place of any earlier one of the name. -/
  | create (cell : κ)
  /-- A new cell that starts with what another cell holds now. -/
  | clone (source target : κ)
  /-- Look at what a cell holds. -/
  | look (cell : κ)
  /-- Look at a cell's value, computed by the recipe if the cell is empty. -/
  | compute (cell : κ) (recipe : Recipe κ α)

/-- What a step answers. -/
inductive Answer (κ α : Type) where
  /-- What a cell holds. -/
  | holds (content : Option α)
  /-- The value of a cell, and the cells whose recipes were started for it. -/
  | computed (value : α) (started : List κ)
  /-- The computation stopped. -/
  | stopped (halt : Halt κ String)

variable {κ α : Type} [Ord κ] [Std.LawfulEqOrd κ] [DecidableEq κ]

/-- Ask a cell for its value, computed by an evaluation if it is empty. -/
def askCell (cell : κ) (evaluation : Cooking κ α α) : Cooking κ α α :=
  Eval.resolve cell do
    Eval.emit cell
    evaluation

/-- Follow a recipe. -/
def Recipe.follow : Recipe κ α → Cooking κ α α
  | give value => pure value
  | abort message => Eval.fail message
  | ask cell inner next => do
    let found ← askCell cell inner.follow
    (next found).follow

/-- Take one step: what it answers, and the cells after it. -/
def Step.take (bank : Bank κ fun _ => α) : Step κ α → Answer κ α × Bank κ fun _ => α
  | create cell => (.holds none, bank.renew cell none)
  | clone source target => (.holds (bank.get? source), bank.renew target (bank.get? source))
  | look cell => (.holds (bank.get? cell), bank)
  | compute cell recipe =>
    match (askCell cell recipe.follow).perform ⟨bank, #[]⟩ with
    | (.ok value, reached) => (.computed value reached.events.toList, reached.bank)
    | (.error halt, reached) => (.stopped halt, reached.bank)

/-- Take the steps of a program in order. -/
def runProgram (bank : Bank κ fun _ => α) :
    List (Step κ α) → List (Answer κ α) × Bank κ fun _ => α
  | [] => ([], bank)
  | step :: rest =>
    let (answer, reached) := step.take bank
    let (answers, final) := runProgram reached rest
    (answer :: answers, final)

/-- The text that shows a cell, given how its value is shown. -/
def dumpCell (dumpValue : α → String) : Option α → String
  | some value => Text.tuple "Memo" [dumpValue value]
  | none => Text.tuple "Memo" ["<pending>"]

end Encapsulation.Memo
