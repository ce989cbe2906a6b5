import Encapsulation.Event
import Encapsulation.Bytes
import Encapsulation.Memo.Eval

/-!
# Cells of packets and headers

Five things are derived from a packet or a header and remembered in cells of its own: its length,
its bytes, their hexadecimal form, its text and its hash. An access is an evaluation over these
cells. It fails in two cases only: the bytes of a packet turn out not to be as many as its
remembered length, or lengths are added up and the sum does not fit 64 bits. With fewer than 2 ^ 64
bytes in all, either takes a layer whose caller gave it a length that is not that of its bytes.
-/
namespace Encapsulation

/-- The things that are derived from an object and remembered. -/
inductive View where
  /-- The number of bytes. -/
  | length
  /-- The bytes in wire order. -/
  | bytes
  /-- The bytes in hexadecimal. -/
  | hex
  /-- The description. -/
  | text
  /-- The hash of the bytes. -/
  | hash
deriving DecidableEq

namespace View

/-- What a view shows. -/
abbrev Value : View → Type
  | length => Nat
  | bytes => Bytes
  | hex => String
  | text => String
  | hash => Int32

/-- All views. -/
def all : List View := [length, bytes, hex, text, hash]

/-- The place of a view among all views. -/
def place : View → Nat
  | length => 0
  | bytes => 1
  | hex => 2
  | text => 3
  | hash => 4

/-- Views are told apart by their places. -/
theorem eq_of_place {left right : View} (same : left.place = right.place) : left = right := by
  cases left <;> cases right <;> simp_all [place]

end View

/-- The cell of one view of one object. -/
structure Cell where
  /-- The object that remembers. -/
  object : Object
  /-- The view that is remembered. -/
  view : View
deriving DecidableEq

namespace Cell

/-- What a cell holds when it is filled. -/
abbrev Value (cell : Cell) : Type := cell.view.Value

/-- The number of the object's chain, or of the copy. -/
def number (cell : Cell) : Nat := cell.object.number

/-- The depth of the object in its chain. -/
def depth (cell : Cell) : Nat := cell.object.depth

/-- The sort of the object. -/
def sort (cell : Cell) : Nat := cell.object.sort

/-- The place of the view. -/
def place (cell : Cell) : Nat := cell.view.place

/-- Cells in the order of their chains, then of their depths, then of objects and views. -/
instance : Ord Cell where
  compare :=
    compareLex (compareOn number)
      (compareLex (compareOn depth) (compareLex (compareOn sort) (compareOn place)))

/-- Cells are told apart by what orders them. -/
theorem eq_of_order {left right : Cell} (number : left.number = right.number)
    (depth : left.depth = right.depth) (sort : left.sort = right.sort)
    (place : left.place = right.place) : left = right := by
  obtain ⟨object, view⟩ := left
  obtain ⟨other, shown⟩ := right
  cases Object.eq_of_numbers sort number depth
  cases View.eq_of_place place
  rfl

instance : Std.TransOrd Cell :=
  inferInstanceAs (Std.TransCmp
    (compareLex (compareOn number)
      (compareLex (compareOn depth) (compareLex (compareOn sort) (compareOn place)))))

instance : Std.LawfulEqOrd Cell where
  eq_of_compare {left right} same := by
    have parts : compareOn number left right = .eq ∧ compareOn depth left right = .eq ∧
        compareOn sort left right = .eq ∧ compareOn place left right = .eq := by
      simpa [compare, compareLex, Ordering.then_eq_eq] using same
    simp only [compareOn, Std.LawfulEqOrd.compare_eq_iff_eq] at parts
    exact eq_of_order parts.1 parts.2.1 parts.2.2.1 parts.2.2.2

end Cell

/-- Why an access fails. -/
inductive Fault where
  /-- The bytes of a packet of some kind were counted, and its remembered length is another
  number. -/
  | mismatch (kind : Kind) (counted remembered : Nat)
  /-- A sum of lengths does not fit 64 bits. -/
  | overflow

/-- The wording of a fault. -/
def Fault.message : Fault → String
  | mismatch kind counted remembered =>
    "assertion `left == right` failed: " ++ kind.name ++ " length mismatch\n" ++
      "  left: " ++ toString counted ++ "\n" ++
      " right: " ++ toString remembered
  | overflow => "attempt to add with overflow"

/-- What packets and headers remember, and the events so far. -/
abbrev Memory : Type := Memo.State Cell Cell.Value Event

/-- An evaluation over the cells of packets and headers. -/
abbrev Access : Type → Type := Memo.Eval Cell Cell.Value Event Fault

namespace Access

/-- A view of an object, computed when it is first asked for. -/
def remember (object : Object) (view : View) (compute : Access view.Value) :
    Access view.Value :=
  Memo.Eval.resolve (Cell.mk object view) compute

/-- A view of an object if the object remembers it; nothing is computed. -/
def remembered (object : Object) (view : View) : Access (Option view.Value) :=
  Memo.Eval.peek (Cell.mk object view)

/-- The sum of two lengths, which has to fit 64 bits. -/
def addLengths (first second : Nat) : Access Nat :=
  if first + second < UInt64.size then pure (first + second) else Memo.Eval.fail .overflow

/-- Lengths whose sum fits are added exactly, and the memory stays as it is. -/
theorem addLengths_of_lt {first second : Nat} (fits : first + second < UInt64.size)
    (computing : List Cell) (memory : Memory) :
    addLengths first second computing memory = .ok (first + second) memory := by
  rw [addLengths, if_pos fits, Memo.Eval.pure_apply]

/-- Lengths whose sum does not fit make the access fail, and the memory stays as it is. -/
theorem addLengths_of_le {first second : Nat} (excess : UInt64.size ≤ first + second)
    (computing : List Cell) (memory : Memory) :
    addLengths first second computing memory = .error (.failed .overflow computing) memory := by
  rw [addLengths, if_neg (Nat.not_lt.mpr excess), Memo.Eval.fail_apply]

end Access

end Encapsulation
