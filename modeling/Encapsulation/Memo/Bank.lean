import Std.Data.DTreeMap

/-!
# Banks of write-once cells

A bank holds cells by name. A cell is empty or filled, and `Bank.get?` is the view of a bank: what
each cell holds. Filling a cell that is filled already changes nothing, so a value once given stays
(`Bank.get?_fill_of_eq_some`) until the cell is replaced as a whole.
-/
namespace Encapsulation.Memo

/-- Cells by name; the cell named `cell` holds a value of type `β cell`. -/
structure Bank (κ : Type) (β : κ → Type) [Ord κ] where
  /-- The filled cells with their values. -/
  filled : Std.DTreeMap κ β

namespace Bank

variable {κ : Type} {β : κ → Type} [Ord κ]

/-- The bank whose cells are all empty. -/
def empty : Bank κ β := ⟨∅⟩

instance : Inhabited (Bank κ β) := ⟨empty⟩

variable [Std.LawfulEqOrd κ]

/-- What a cell holds. -/
def get? (bank : Bank κ β) (cell : κ) : Option (β cell) := bank.filled.get? cell

/-- Whether a cell is filled. -/
def isFilled (bank : Bank κ β) (cell : κ) : Bool := (bank.get? cell).isSome

/-- Fill a cell; a filled cell keeps what it holds. -/
def fill (bank : Bank κ β) (cell : κ) (value : β cell) : Bank κ β :=
  ⟨bank.filled.insertIfNew cell value⟩

/-- A new cell under a name, empty or filled from the start, in place of any earlier one. -/
def renew (bank : Bank κ β) (cell : κ) : Option (β cell) → Bank κ β
  | none => ⟨bank.filled.erase cell⟩
  | some value => ⟨bank.filled.insert cell value⟩

/-- No cell of the empty bank is filled. -/
@[simp]
theorem get?_empty [Std.TransOrd κ] (cell : κ) : (empty : Bank κ β).get? cell = none := by
  simp [empty, get?]

/-- An empty cell holds what it is filled with. -/
theorem get?_fill_self [Std.TransOrd κ] (bank : Bank κ β) (cell : κ) (value : β cell)
    (vacant : bank.get? cell = none) : (bank.fill cell value).get? cell = some value := by
  have absent : cell ∉ bank.filled := by
    rw [Std.DTreeMap.mem_iff_isSome_get?]
    simp only [get?] at vacant
    simp [vacant]
  simp [fill, get?, Std.DTreeMap.get?_insertIfNew, absent]

/-- Filling a cell leaves the other cells as they are. -/
theorem get?_fill_of_ne [Std.TransOrd κ] (bank : Bank κ β) {cell other : κ} (value : β cell)
    (distinct : cell ≠ other) : (bank.fill cell value).get? other = bank.get? other := by
  simp [fill, get?, Std.DTreeMap.get?_insertIfNew, distinct]

/-- A filled cell keeps what it holds, whichever cell is filled. -/
theorem get?_fill_of_eq_some [Std.TransOrd κ] (bank : Bank κ β) {cell kept : κ} (value : β cell)
    {held : β kept} (full : bank.get? kept = some held) :
    (bank.fill cell value).get? kept = some held := by
  have present : kept ∈ bank.filled := by
    rw [Std.DTreeMap.mem_iff_isSome_get?]
    simp only [get?] at full
    simp [full]
  simp only [fill, get?, Std.DTreeMap.get?_insertIfNew]
  rw [dif_neg]
  · exact full
  · rintro ⟨same, absent⟩
    rw [Std.LawfulEqOrd.compare_eq_iff_eq] at same
    exact absent (same ▸ present)

/-- A new cell holds what it starts with. -/
@[simp]
theorem get?_renew_self [Std.TransOrd κ] (bank : Bank κ β) (cell : κ)
    (start : Option (β cell)) : (bank.renew cell start).get? cell = start := by
  cases start <;> simp [renew, get?]

/-- A new cell leaves the other cells as they are. -/
theorem get?_renew_of_ne [Std.TransOrd κ] (bank : Bank κ β) {cell other : κ}
    (start : Option (β cell)) (distinct : cell ≠ other) :
    (bank.renew cell start).get? other = bank.get? other := by
  cases start <;>
    simp [renew, get?, Std.DTreeMap.get?_insert, Std.DTreeMap.get?_erase, distinct]

end Bank

end Encapsulation.Memo
