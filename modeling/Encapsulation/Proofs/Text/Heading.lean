import Encapsulation.Proofs.Text.Section

/-!
# Counts in headings

A text is read back line by line: a line that begins with a bracket is a heading, and the number
after the first parenthesis in it is a count of bytes. All lines after the heading of a section begin
with a blank, so sections one after another give their counts and no others.
-/
namespace Encapsulation

namespace Text

/-- The count of bytes that a line gives, if it is a heading. -/
def count? : List Char → Option Nat
  | '[' :: rest =>
    let digits := ((rest.dropWhile fun char => char != '(').drop 1).takeWhile Char.isDigit
    some (Nat.ofDigitChars 10 digits 0)
  | _ => none

/-- The counts that the headings of a text give, one after another. -/
def counts (text : String) : List Nat := (text.toList.splitOn '\n').filterMap count?

/-- Lines without breaks inside are read back from the text that they make; nothing follows the last
break. -/
theorem splitOn_unlines {lines : List String} (clean : ∀ line ∈ lines, Inline line) :
    (unlines lines).toList.splitOn '\n' = lines.map String.toList ++ [[]] := by
  induction lines with
  | nil => rfl
  | cons line rest ih =>
    have alone : line.toList.splitOn '\n' = [line.toList] :=
      List.splitOn_eq_singleton (clean line List.mem_cons_self)
    have onward := ih fun line inside => clean line (List.mem_cons_of_mem _ inside)
    rw [List.splitOn_eq_splitOnP] at alone onward ⊢
    have broken := @List.splitOnP_append_cons _ (fun char => char == '\n') line.toList
      (unlines rest).toList '\n' rfl
    rw [toList_unlines_cons, broken, alone, onward]
    rfl

/-- The counts of lines without breaks inside are those of the lines. -/
theorem counts_unlines {lines : List String} (clean : ∀ line ∈ lines, Inline line) :
    counts (unlines lines) = lines.filterMap fun line => count? line.toList := by
  rw [counts, splitOn_unlines clean, List.filterMap_append, List.filterMap_map]
  exact List.append_nil _

/-- A line begins with a blank. -/
def Indented (line : String) : Prop := line.toList.head? = some ' '

instance (line : String) : Decidable (Indented line) :=
  inferInstanceAs (Decidable (line.toList.head? = some ' '))

/-- What follows the blank does not matter. -/
theorem Indented.append {front : String} (indented : Indented front) (back : String) :
    Indented (front ++ back) := by
  rw [Indented, String.toList_append, List.head?_append, indented, Option.some_or]

/-- A line that begins with a blank is no heading. -/
theorem Indented.count? {line : String} (indented : Indented line) : count? line.toList = none := by
  rw [Indented] at indented
  cases chars : line.toList with
  | nil => rfl
  | cons char rest =>
    rw [chars, List.head?_cons, Option.some.injEq] at indented
    rw [indented]
    rfl

end Text

namespace Section

open Text (Indented)

/-- The heading of a section gives the number of bytes that the section shows. -/
theorem count?_heading (part : Section) :
    Text.count? part.heading.toList = some part.bytes.length := by
  have bracket : ∀ subject : Subject, ∃ words : List Char,
      subject.title.toList = '[' :: words := by
    intro subject
    cases subject <;> exact ⟨_, rfl⟩
  obtain ⟨words, begun⟩ := bracket part.subject
  have clean : ∀ char ∈ words, (char != '(') = true := by
    intro char member
    refine bne_iff_ne.mpr fun same => part.subject.title_clean ?_
    rw [begun]
    exact List.mem_cons_of_mem _ (same ▸ member)
  have digits : ∀ char ∈ (toString part.bytes.length).toList, char.isDigit = true :=
    fun _ member => Text.isDigit_of_mem_toString member
  have chars : part.heading.toList =
      '[' :: (words ++ '(' :: ((toString part.bytes.length).toList ++ " bytes)]".toList)) := by
    rw [heading]
    simp only [String.toList_append, begun]
    rfl
  have after : " bytes)]".toList.takeWhile Char.isDigit = [] := by decide
  rw [chars, Text.count?, List.dropWhile_append_of_pos clean, List.dropWhile_cons_of_neg (by decide),
    List.drop_one, List.tail_cons, List.takeWhile_append_of_pos digits, after, List.append_nil,
    Nat.toString_eq_repr, Nat.toList_repr, Nat.ofDigitChars_ten_toDigits]

/-- All lines after the heading of a section begin with a blank. -/
theorem details_indented (part : Section) : ∀ line ∈ part.details, Indented line := by
  rw [← List.forall_iff_forall_mem]
  cases part with
  | ethernet header =>
    refine ⟨.append (by decide) _, .append (by decide) _, ?_⟩
    unfold typeLine
    split
    · exact .append (by decide) _
    · exact .append (by decide) _
  | llcSnap header =>
    exact ⟨.append (by decide) _, .append (by decide) _, .append (by decide) _,
      .append (by decide) _, .append (by decide) _⟩
  | udp header =>
    exact ⟨.append (by decide) _, .append (by decide) _, .append (by decide) _,
      .append (by decide) _⟩
  | data shown => exact Indented.append (by decide) _
  | pad shown => exact Indented.append (by decide) _

/-- Sections one after another give the number of bytes of each. -/
theorem counts_join (parts : List Section) :
    Text.counts (String.join (parts.map text)) = parts.map fun part => part.bytes.length := by
  have own : ∀ part : Section,
      (part.lines.filterMap fun line => Text.count? line.toList) = [part.bytes.length] := by
    intro part
    have none : (part.details.filterMap fun line => Text.count? line.toList) = [] :=
      List.filterMap_eq_nil_iff.mpr fun line member =>
        (part.details_indented line member).count?
    rw [lines, List.filterMap_cons, part.count?_heading, none]
  rw [join_text, Text.counts_unlines (flatMap_lines_inline parts),
    List.filterMap_flatMap]
  simp only [own, List.map_eq_flatMap]

end Section

end Encapsulation
