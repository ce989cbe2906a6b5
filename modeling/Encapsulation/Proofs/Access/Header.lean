import Encapsulation.Access.Header
import Encapsulation.Proofs.Access.Cells

/-!
# Contracts of header views

Whatever a header remembers, every view of it returns its meaning, and nothing but the cells of
the header is touched: headers have no length of their own that could disagree with their bytes.
-/
namespace Encapsulation.Header

open Memo (Canon Bank)
open Memo.Eval (Meets)

variable {canon : Canon Cell Cell.Value} {object : Object} {header : Header}
  {fault : Fault → Bank Cell Cell.Value → Prop}

/-- A cell of a header answers with the meaning of the view if its computation, which asks only
for cells of the header below it, does. -/
theorem remember_meets (view : View) (denoted : header.Denoted canon object) {level : Nat}
    (below : view.level < level) {compute : Access view.Value}
    (met : Meets canon compute
      ⟨object.cells view.level, fun _ => True, fault, header.meaning view⟩) :
    Meets canon (Access.remember object view compute)
      ⟨object.cells level, fun _ => True, fault, header.meaning view⟩ := by
  have answered := met.resolve (object.cells_mono (Nat.le_of_lt below))
    (Object.mem_cells.mpr ⟨rfl, below⟩) (fun member => Nat.lt_irrefl _ member.2) (denoted view)
  exact answered.retell fun _ _ => by simp

/-- The length of a header is the size of its fields. -/
theorem length_meets (denoted : header.Denoted canon object) {level : Nat} (below : 1 < level) :
    Meets canon (header.length object) ⟨object.cells level, fun _ => True, fault, header.size⟩ :=
  remember_meets .length denoted below (.pure _ _ _)

/-- The bytes of a header are its fields one after another. -/
theorem readBytes_meets (denoted : header.Denoted canon object) {level : Nat} (below : 0 < level) :
    Meets canon (header.readBytes object)
      ⟨object.cells level, fun _ => True, fault, header.bytes⟩ := by
  refine remember_meets .bytes denoted below ?_
  exact (Meets.emit _ _ _).bind_ready subset_rfl (.pure _ _ _) fun _ _ _ => Iff.rfl

/-- The hexadecimal form of a header is that of its bytes. -/
theorem hex_meets (denoted : header.Denoted canon object) {level : Nat} (below : 2 < level) :
    Meets canon (header.hex object)
      ⟨object.cells level, fun _ => True, fault, Bytes.toHex ":" header.bytes⟩ :=
  remember_meets .hex denoted below
    ((readBytes_meets denoted (by decide)).bind_pure (.pure _ _ _))

/-- The hash of a header is that of its bytes. -/
theorem hash_meets (denoted : header.Denoted canon object) {level : Nat} (below : 2 < level) :
    Meets canon (header.hash object)
      ⟨object.cells level, fun _ => True, fault, Bytes.hash header.bytes⟩ :=
  remember_meets .hash denoted below
    ((readBytes_meets denoted (by decide)).bind_pure (.pure _ _ _))

/-- The text of a header shows its size or its bytes, unless its caller gave it one. -/
theorem text_meets (denoted : header.Denoted canon object) {level : Nat} (below : 3 < level) :
    Meets canon (header.text object)
      ⟨object.cells level, fun _ => True, fault, header.plainText⟩ := by
  refine remember_meets .text denoted below ?_
  cases header with
  | ethernet fields => exact (length_meets denoted (by decide)).bind_pure (.pure _ _ _)
  | llcSnap fields => exact (length_meets denoted (by decide)).bind_pure (.pure _ _ _)
  | udp fields => exact (length_meets denoted (by decide)).bind_pure (.pure _ _ _)
  | custom fields =>
    cases given : fields.text with
    | some text =>
      simp only [meaning, plainText, given]
      exact .pure _ _ _
    | none =>
      simp only [meaning, plainText, given]
      exact hex_meets denoted (by decide)

/-- Every view of a header returns its meaning. -/
theorem read_meets (denoted : header.Denoted canon object) (view : View) :
    Meets canon (header.read object view)
      ⟨object.cells 4, fun _ => True, fault, header.meaning view⟩ := by
  cases view with
  | length => exact length_meets denoted (by decide)
  | bytes => exact readBytes_meets denoted (by decide)
  | hex => exact hex_meets denoted (by decide)
  | text => exact text_meets denoted (by decide)
  | hash => exact hash_meets denoted (by decide)

end Encapsulation.Header
