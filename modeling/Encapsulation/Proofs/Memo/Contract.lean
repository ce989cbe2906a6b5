import Encapsulation.Memo.Eval
import Mathlib.Data.Set.Insert

/-!
# Contracts of evaluations

A contract says what an evaluation does before it is run: which cells it may ask for, from which
banks it returns, with which value, and what it fails for otherwise. `Eval.Meets` holds an
evaluation to its contract from every bank whose filled cells hold what they are to hold, whatever
is being computed around it outside its region. An evaluation that meets its contract never asks
for a cell that is being computed, keeps every filled cell, and leaves the cells outside its region
alone; if it fails, the cells whose computation broke off are empty.

The rules here hold the ways of putting evaluations together to contracts that are put together
alike, so that each access needs one lemma about its own parts.
-/
namespace Encapsulation.Memo

variable {κ : Type} {β : κ → Type} [Ord κ] [Std.LawfulEqOrd κ] {ε φ α γ : Type}

/-- What cells are to hold; a cell for which nothing is laid down may hold anything. -/
abbrev Canon (κ : Type) (β : κ → Type) : Type := (cell : κ) → Option (β cell)

/-- Every filled cell for which a value is laid down holds that value. -/
def Bank.Coherent (bank : Bank κ β) (canon : Canon κ β) : Prop :=
  ∀ cell held right, bank.get? cell = some held → canon cell = some right → held = right

/-- A filled cell for which a value is laid down holds it. -/
theorem Bank.Coherent.get?_eq {bank : Bank κ β} {canon : Canon κ β} (coherent : bank.Coherent canon)
    {cell : κ} {held right : β cell} (full : bank.get? cell = some held)
    (laid : canon cell = some right) : bank.get? cell = some right := by
  rw [full, coherent cell held right full laid]

/-- Filling a cell with what it is to hold keeps a bank coherent. -/
theorem Bank.Coherent.fill [Std.TransOrd κ] {bank : Bank κ β} {canon : Canon κ β}
    (coherent : bank.Coherent canon) {cell : κ} {value : β cell} (vacant : bank.get? cell = none)
    (laid : canon cell = some value) : (bank.fill cell value).Coherent canon := by
  intro other held right full expected
  by_cases same : cell = other
  · subst same
    rw [bank.get?_fill_self cell value vacant] at full
    rw [laid] at expected
    exact (Option.some.inj full).symm.trans (Option.some.inj expected)
  · rw [bank.get?_fill_of_ne value same] at full
    exact coherent other held right full expected

/-- A coherent bank stays so for a canon that lays down less. -/
theorem Bank.Coherent.anti {bank : Bank κ β} {canon less : Canon κ β}
    (coherent : bank.Coherent canon)
    (fewer : ∀ cell value, less cell = some value → canon cell = some value) :
    bank.Coherent less :=
  fun cell held right full laid => coherent cell held right full (fewer cell right laid)

/-- A cell is filled once it has been filled. -/
theorem Bank.isFilled_fill [Std.TransOrd κ] (bank : Bank κ β) (cell : κ) (value : β cell) :
    (bank.fill cell value).isFilled cell = true := by
  cases content : bank.get? cell with
  | none => simp [Bank.isFilled, bank.get?_fill_self cell value content]
  | some held => simp [Bank.isFilled, bank.get?_fill_of_eq_some value content]

/-- A cell that has answered is filled. -/
theorem Eval.isFilled_of_resolve [Std.TransOrd κ] [DecidableEq κ] {cell : κ} {value : β cell}
    {compute : Eval κ β ε φ (β cell)} {computing : List κ} {before after : State κ β ε}
    (answered : Eval.resolve cell compute computing before = .ok value after) :
    after.bank.isFilled cell = true := by
  rcases Eval.resolve_eq_ok answered with ⟨content, rfl⟩ | ⟨vacant, middle, returned, rfl⟩
  · exact Option.isSome_iff_exists.mpr ⟨value, content⟩
  · exact Bank.isFilled_fill middle.bank cell value

/-- One state after another: filled cells keep what they hold, and cells outside a region stay as
they are. -/
structure State.Advances (region : Set κ) (before after : State κ β ε) : Prop where
  /-- A filled cell keeps what it holds. -/
  keeps : ∀ cell value, before.bank.get? cell = some value → after.bank.get? cell = some value
  /-- A cell outside the region stays as it is. -/
  spares : ∀ cell, cell ∉ region → after.bank.get? cell = before.bank.get? cell

namespace State.Advances

variable {region larger : Set κ} {before middle after : State κ β ε}

/-- Every state comes after itself. -/
theorem refl (region : Set κ) (state : State κ β ε) : state.Advances region state :=
  ⟨fun _ _ full => full, fun _ _ => rfl⟩

/-- A state with the same bank comes after the first one. -/
theorem of_bank_eq (region : Set κ) (same : after.bank = before.bank) :
    before.Advances region after :=
  ⟨fun _ _ full => same ▸ full, fun cell _ => congrArg (·.get? cell) same⟩

/-- The order of states is transitive. -/
theorem trans (first : before.Advances region middle) (second : middle.Advances region after) :
    before.Advances region after :=
  ⟨fun cell value full => second.keeps cell value (first.keeps cell value full),
    fun cell outside => (second.spares cell outside).trans (first.spares cell outside)⟩

/-- A region may be taken larger. -/
theorem mono (within : region ⊆ larger) (advance : before.Advances region after) :
    before.Advances larger after :=
  ⟨advance.keeps, fun cell outside => advance.spares cell fun inside => outside (within inside)⟩

/-- Whether a cell outside the region is filled does not change. -/
theorem isFilled_eq {cell : κ} (advance : before.Advances region after) (outside : cell ∉ region) :
    after.bank.isFilled cell = before.bank.isFilled cell :=
  congrArg Option.isSome (advance.spares cell outside)

/-- Filling an empty cell of the region after an advance is an advance. -/
theorem fill [Std.TransOrd κ] {cell : κ} (advance : before.Advances region after)
    (inside : cell ∈ region) (value : β cell) :
    before.Advances region { after with bank := after.bank.fill cell value } := by
  constructor
  · intro other held full
    exact after.bank.get?_fill_of_eq_some value (advance.keeps other held full)
  · intro other outside
    have distinct : cell ≠ other := fun same => outside (same ▸ inside)
    exact (after.bank.get?_fill_of_ne value distinct).trans (advance.spares other outside)

/-- Filling a cell touches no other cell. -/
theorem of_fill [Std.TransOrd κ] (state : State κ β ε) (cell : κ) (value : β cell) :
    state.Advances {cell} { state with bank := state.bank.fill cell value } :=
  (refl {cell} state).fill (Set.mem_singleton cell) value

end State.Advances

/-- What is laid down about an evaluation before it is run. -/
structure Contract (κ : Type) (β : κ → Type) [Ord κ] (φ α : Type) where
  /-- The cells it may ask for. -/
  region : Set κ
  /-- The banks from which it returns. -/
  ready : Bank κ β → Prop
  /-- What it may fail for, told by the bank it leaves behind. -/
  fault : φ → Bank κ β → Prop
  /-- The value it returns. -/
  value : α

/-- An evaluation meets a contract: from every coherent bank, with no cell of its region being
computed, it returns the value exactly if the bank is ready, and fails for one of the faults
otherwise. Either way the bank stays coherent, filled cells stay filled, cells outside the region
stay as they are, and the cells whose computation a failure broke off are empty. -/
def Eval.Meets (canon : Canon κ β) (evaluation : Eval κ β ε φ α) (contract : Contract κ β φ α) :
    Prop :=
  ∀ computing state, (∀ cell ∈ computing, cell ∉ contract.region) → state.bank.Coherent canon →
    ∃ reached, state.Advances contract.region reached ∧ reached.bank.Coherent canon ∧
      ((contract.ready state.bank ∧ evaluation computing state = .ok contract.value reached) ∨
        (¬ contract.ready state.bank ∧
          ∃ cause inner,
            evaluation computing state = .error (.failed cause (inner ++ computing)) reached ∧
              contract.fault cause reached.bank ∧
              ∀ cell ∈ inner, reached.bank.get? cell = none))

namespace Eval.Meets

variable {canon : Canon κ β} {region front : Set κ} {ready follow : Bank κ β → Prop}
  {fault : φ → Bank κ β → Prop} {value : α} {result : γ}

/-- An evaluation that returns does so from a bank that is ready, with the value of its contract,
and keeps to its region. -/
theorem of_eq_ok {evaluation : Eval κ β ε φ α} {contract : Contract κ β φ α}
    (met : Meets canon evaluation contract) {computing : List κ} {before after : State κ β ε}
    {returned : α} (apart : ∀ cell ∈ computing, cell ∉ contract.region)
    (coherent : before.bank.Coherent canon)
    (answered : evaluation computing before = .ok returned after) :
    contract.ready before.bank ∧ returned = contract.value ∧
      before.Advances contract.region after ∧ after.bank.Coherent canon := by
  obtain ⟨reached, advance, kept, outcome⟩ := met computing before apart coherent
  rcases outcome with ⟨fit, result⟩ | ⟨unfit, cause, inner, failed, -⟩
  · obtain ⟨rfl, rfl⟩ := EStateM.Result.ok.inj (answered.symm.trans result)
    exact ⟨fit, rfl, advance, kept⟩
  · cases answered.symm.trans failed

/-- A contract may allow a larger region and more faults, and may tell the same banks to be ready
in other words. -/
theorem weaken {evaluation : Eval κ β ε φ α} {more : φ → Bank κ β → Prop}
    {ready' : Bank κ β → Prop} (met : Meets canon evaluation ⟨front, ready, fault, value⟩)
    (within : front ⊆ region) (same : ∀ bank, bank.Coherent canon → (ready' bank ↔ ready bank))
    (worse : ∀ cause bank, fault cause bank → more cause bank) :
    Meets canon evaluation ⟨region, ready', more, value⟩ := by
  intro computing state apart coherent
  obtain ⟨reached, advance, kept, outcome⟩ :=
    met computing state (fun cell entered inside => apart cell entered (within inside)) coherent
  refine ⟨reached, advance.mono within, kept, ?_⟩
  rcases outcome with ⟨fit, returned⟩ | ⟨unfit, cause, inner, failed, blame, vacant⟩
  · exact .inl ⟨(same state.bank coherent).mpr fit, returned⟩
  · exact .inr ⟨fun fit => unfit ((same state.bank coherent).mp fit), cause, inner, failed,
      worse cause reached.bank blame, vacant⟩

/-- A contract may tell the same banks to be ready in other words. -/
theorem retell {evaluation : Eval κ β ε φ α} {ready' : Bank κ β → Prop}
    (met : Meets canon evaluation ⟨region, ready, fault, value⟩)
    (same : ∀ bank, bank.Coherent canon → (ready' bank ↔ ready bank)) :
    Meets canon evaluation ⟨region, ready', fault, value⟩ :=
  met.weaken subset_rfl same fun _ _ blame => blame

/-- A contract may allow a larger region. -/
theorem widen {evaluation : Eval κ β ε φ α}
    (met : Meets canon evaluation ⟨front, ready, fault, value⟩) (within : front ⊆ region) :
    Meets canon evaluation ⟨region, ready, fault, value⟩ :=
  met.weaken within (fun _ _ => Iff.rfl) fun _ _ blame => blame

/-- A plain value is returned from every bank. -/
theorem pure (region : Set κ) (fault : φ → Bank κ β → Prop) (value : α) :
    Meets canon (Pure.pure value : Eval κ β ε φ α) ⟨region, fun _ => True, fault, value⟩ :=
  fun _ state _ coherent => ⟨state, .refl region state, coherent, .inl ⟨trivial, rfl⟩⟩

/-- A plain value is returned, in whatever words every bank is told to be ready. -/
theorem pure_of_forall (always : ∀ bank, ready bank) (value : α) :
    Meets canon (Pure.pure value : Eval κ β ε φ α) ⟨region, ready, fault, value⟩ :=
  (Meets.pure region fault value).retell fun bank _ => iff_of_true (always bank) trivial

/-- An event can be logged from every bank. -/
theorem emit (region : Set κ) (fault : φ → Bank κ β → Prop) (event : ε) :
    Meets canon (Eval.emit event : Eval κ β ε φ Unit) ⟨region, fun _ => True, fault, ()⟩ :=
  fun _ state _ coherent =>
    ⟨{ state with events := state.events.push event }, ⟨fun _ _ full => full, fun _ _ => rfl⟩,
      coherent, .inl ⟨trivial, rfl⟩⟩

/-- One evaluation after another is ready if both are, where what the second one asks of the bank
is not touched by the first one. -/
theorem bind {first : Eval κ β ε φ α} {second : α → Eval κ β ε φ γ}
    (head : Meets canon first ⟨front, ready, fault, value⟩) (within : front ⊆ region)
    (tail : Meets canon (second value) ⟨region, follow, fault, result⟩)
    (stable : ∀ before after : State κ β ε, before.Advances front after →
      (follow after.bank ↔ follow before.bank)) :
    Meets canon (first >>= second)
      ⟨region, fun bank => ready bank ∧ follow bank, fault, result⟩ := by
  intro computing state apart coherent
  obtain ⟨middle, advance, kept, outcome⟩ :=
    head computing state (fun cell entered inside => apart cell entered (within inside)) coherent
  rcases outcome with ⟨fit, returned⟩ | ⟨unfit, cause, inner, failed, blame, vacant⟩
  · obtain ⟨reached, later, keptToo, outcome⟩ := tail computing middle apart kept
    refine ⟨reached, (advance.mono within).trans later, keptToo, ?_⟩
    rw [Eval.bind_apply, returned]
    rcases outcome with ⟨fitToo, returnedToo⟩ | ⟨unfit, broken⟩
    · exact .inl ⟨⟨fit, (stable state middle advance).mp fitToo⟩, returnedToo⟩
    · exact .inr ⟨fun both => unfit ((stable state middle advance).mpr both.2), broken⟩
  · refine ⟨middle, advance.mono within, kept, .inr ⟨fun both => unfit both.1, ?_⟩⟩
    rw [Eval.bind_apply, failed]
    exact ⟨cause, inner, rfl, blame, vacant⟩

/-- What follows an evaluation that always returns is ready when it is. -/
theorem bind_ready {first : Eval κ β ε φ α} {second : α → Eval κ β ε φ γ}
    (head : Meets canon first ⟨front, fun _ => True, fault, value⟩) (within : front ⊆ region)
    (tail : Meets canon (second value) ⟨region, follow, fault, result⟩)
    (stable : ∀ before after : State κ β ε, before.Advances front after →
      (follow after.bank ↔ follow before.bank)) :
    Meets canon (first >>= second) ⟨region, follow, fault, result⟩ :=
  (head.bind within tail stable).retell fun _ _ => by simp

/-- What is done with the value of an evaluation that is put out in the end does not change when
it is ready. -/
theorem bind_pure {first : Eval κ β ε φ α} {second : α → Eval κ β ε φ γ}
    (head : Meets canon first ⟨region, ready, fault, value⟩)
    (tail : Meets canon (second value) ⟨region, fun _ => True, fault, result⟩) :
    Meets canon (first >>= second) ⟨region, ready, fault, result⟩ :=
  (head.bind subset_rfl tail fun _ _ _ => Iff.rfl).retell fun _ _ => by simp

/-- A cell answers if it is filled or its computation is ready, where the computation does not ask
for the cell itself. -/
theorem resolve [Std.TransOrd κ] [DecidableEq κ] {cell : κ} {value : β cell}
    {compute : Eval κ β ε φ (β cell)} (met : Meets canon compute ⟨front, ready, fault, value⟩)
    (within : front ⊆ region) (inside : cell ∈ region) (fresh : cell ∉ front)
    (laid : canon cell = some value) :
    Meets canon (Eval.resolve cell compute)
      ⟨region, fun bank => bank.isFilled cell = true ∨ ready bank, fault, value⟩ := by
  intro computing state apart coherent
  cases content : state.bank.get? cell with
  | some held =>
    have right : state.bank.get? cell = some value := coherent.get?_eq content laid
    refine ⟨state, .refl region state, coherent, .inl ⟨.inl ?_, ?_⟩⟩
    · exact Option.isSome_iff_exists.mpr ⟨held, content⟩
    · exact Eval.resolve_of_eq_some compute computing right
  | none =>
    have unfilled : ¬ state.bank.isFilled cell = true := by simp [Bank.isFilled, content]
    have entered : cell ∉ computing := fun entered => apart cell entered inside
    obtain ⟨middle, advance, kept, outcome⟩ := met (cell :: computing) state
      (fun other known => by
        rcases List.mem_cons.mp known with rfl | known
        · exact fresh
        · exact fun inner => apart other known (within inner))
      coherent
    have vacantStill : middle.bank.get? cell = none := (advance.spares cell fresh).trans content
    rw [Eval.resolve_of_eq_none compute content entered]
    rcases outcome with ⟨fit, returned⟩ | ⟨unfit, cause, inner, failed, blame, vacant⟩
    · rw [returned]
      exact ⟨_, (advance.mono within).fill inside value, kept.fill vacantStill laid,
        .inl ⟨.inr fit, rfl⟩⟩
    · rw [failed]
      refine ⟨middle, advance.mono within, kept, .inr ⟨?_, cause, inner ++ [cell], ?_, blame, ?_⟩⟩
      · rintro (full | fit)
        · exact unfilled full
        · exact unfit fit
      · simp
      · intro other broken
        rcases List.mem_append.mp broken with known | known
        · exact vacant other known
        · rw [List.mem_singleton.mp known]
          exact vacantStill

end Eval.Meets

end Encapsulation.Memo
