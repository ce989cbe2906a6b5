import Encapsulation.Meaning
import Encapsulation.Proofs.Text.Numeral
import Mathlib.Data.List.Basic

/-!
# Sections of text

A text is made of sections: one for each header, one for raw data and one for each pad that is not
empty. A section is a heading and a number of lines that depends on its sort alone, and none of its
lines has a break inside. So a text can be taken apart into its sections in one way, and every
section shows its bytes.
-/
namespace Encapsulation

namespace Text

/-- Two texts that agree up to the first place of a mark in each agree before and after it. -/
theorem append_cons_inj {mark : Char} {front other rest last : List Char} (clean : mark ∉ front)
    (otherClean : mark ∉ other) (same : front ++ mark :: rest = other ++ mark :: last) :
    front = other ∧ rest = last := by
  induction front generalizing other with
  | nil =>
    cases other with
    | nil => exact ⟨rfl, (List.cons.inj same).2⟩
    | cons char others =>
      have first : mark = char := (List.cons.inj same).1
      exact absurd (first ▸ List.mem_cons_self) otherClean
  | cons char front ih =>
    cases other with
    | nil =>
      have first : char = mark := (List.cons.inj same).1
      exact absurd (first ▸ List.mem_cons_self) clean
    | cons next others =>
      obtain ⟨first, onward⟩ := List.cons.inj same
      obtain ⟨fronts, rests⟩ := ih (fun inside => clean (List.mem_cons_of_mem _ inside))
        (fun inside => otherClean (List.mem_cons_of_mem _ inside)) onward
      exact ⟨by rw [first, fronts], rests⟩

/-- Lines one after another, each with a break after it. -/
def unlines (lines : List String) : String := String.join (lines.map (· ++ "\n"))

/-- No lines make no text. -/
theorem unlines_nil : unlines [] = "" := rfl

/-- A line comes before the lines after it. -/
theorem unlines_cons (line : String) (rest : List String) :
    unlines (line :: rest) = line ++ ("\n" ++ unlines rest) := by
  rw [unlines, List.map_cons, String.join_cons, String.append_assoc, unlines]

/-- The characters of a line come before a break and those of the lines after it. -/
theorem toList_unlines_cons (line : String) (rest : List String) :
    (unlines (line :: rest)).toList = line.toList ++ '\n' :: (unlines rest).toList := by
  rw [unlines_cons, String.toList_append, String.toList_append]
  rfl

/-- Lines come before the lines after them. -/
theorem unlines_append (lines others : List String) :
    unlines (lines ++ others) = unlines lines ++ unlines others := by
  rw [unlines, List.map_append, String.join_append, unlines, unlines]

/-- Lines without breaks inside are told by the text that they make. -/
theorem unlines_inj {lines others : List String} (clean : ∀ line ∈ lines, Inline line)
    (otherClean : ∀ line ∈ others, Inline line) (same : unlines lines = unlines others) :
    lines = others := by
  induction lines generalizing others with
  | nil =>
    cases others with
    | nil => rfl
    | cons line rest =>
      have chars := (congrArg String.toList same).trans (toList_unlines_cons line rest)
      exact absurd chars.symm (List.append_ne_nil_of_right_ne_nil _ (List.cons_ne_nil _ _))
  | cons line rest ih =>
    cases others with
    | nil =>
      have chars := (toList_unlines_cons line rest).symm.trans (congrArg String.toList same)
      exact absurd chars (List.append_ne_nil_of_right_ne_nil _ (List.cons_ne_nil _ _))
    | cons other others =>
      have chars := congrArg String.toList same
      rw [toList_unlines_cons, toList_unlines_cons] at chars
      obtain ⟨heads, tails⟩ := append_cons_inj (clean line List.mem_cons_self)
        (otherClean other List.mem_cons_self) chars
      have onward := ih (fun line inside => clean line (List.mem_cons_of_mem _ inside))
        (fun line inside => otherClean line (List.mem_cons_of_mem _ inside))
        (String.toList_inj.mp tails)
      rw [String.toList_inj.mp heads, onward]

end Text

/-- A section of the text of a packet of the library. -/
inductive Section where
  /-- The header of a frame. -/
  | ethernet (header : EthernetHeader)
  /-- A header made of an LLC and a SNAP part. -/
  | llcSnap (header : LlcSnapHeader)
  /-- The header of a datagram. -/
  | udp (header : UdpHeader)
  /-- Raw data. -/
  | data (shown : Bytes)
  /-- The pad of a frame. -/
  | pad (shown : Bytes)

namespace Section

open Text (Inline)

/-- What a section is about. -/
inductive Subject where
  /-- The header of a frame. -/
  | ethernet
  /-- A header made of an LLC and a SNAP part. -/
  | llcSnap
  /-- The header of a datagram. -/
  | udp
  /-- Raw data. -/
  | data
  /-- The pad of a frame. -/
  | pad
deriving DecidableEq

/-- The words that a heading begins with. -/
def Subject.title : Subject → String
  | ethernet => "[Ethernet Header "
  | llcSnap => "[LLC/SNAP Header "
  | udp => "[UDP Header "
  | data => "[Unknown Packet "
  | pad => "[Ethernet Pad "

/-- What a section is about. -/
def subject : Section → Subject
  | ethernet _ => .ethernet
  | llcSnap _ => .llcSnap
  | udp _ => .udp
  | data _ => .data
  | pad _ => .pad

/-- The bytes that a section shows. -/
def bytes : Section → Bytes
  | ethernet header => Header.bytes (.ethernet header)
  | llcSnap header => Header.bytes (.llcSnap header)
  | udp header => Header.bytes (.udp header)
  | data shown => shown
  | pad shown => shown

/-- The line for the last field of the header of a frame, without the break after it. -/
def typeLine (header : EthernetHeader) : String :=
  if header.etherType = .llc then
    "  Length: " ++ (toString header.typeOrLength.toNat ++ " (LLC)")
  else
    "  Type: 0x" ++
      (Bytes.hexWord header.typeOrLength ++ (" (" ++ (header.etherType.display ++ ")")))

/-- The lines after the heading. -/
def details : Section → List String
  | ethernet header =>
    ["  Destination address: " ++ header.destination.display,
      "  Source address: " ++ header.source.display, typeLine header]
  | llcSnap header =>
    ["  DSAP: 0x" ++ Bytes.toHex "" [header.destination.code],
      "  SSAP: 0x" ++ Bytes.toHex "" [header.source.code],
      "  Control: 0x" ++ Bytes.toHex "" [header.control.code],
      "  OUI: " ++ header.oui.display,
      "  Protocol ID: 0x" ++ Bytes.hexWord header.protocol.code]
  | udp header =>
    ["  Source port: " ++ header.source.display,
      "  Destination port: " ++ header.destination.display,
      "  Length: " ++ toString header.length.toNat,
      "  Checksum: 0x" ++ Bytes.hexWord header.checksum]
  | data shown => ["  Hex stream: " ++ Bytes.toHex " " shown]
  | pad shown => ["  Hex stream: " ++ Bytes.toHex " " shown]

/-- The heading: what the section is about, and how many bytes it shows. -/
def heading (part : Section) : String :=
  part.subject.title ++ ("(" ++ (toString part.bytes.length ++ " bytes)]"))

/-- The lines of a section. -/
def lines (part : Section) : List String := part.heading :: part.details

/-- The text of a section. -/
def text (part : Section) : String := Text.unlines part.lines

/-- A heading ends in a break, and the lines after it follow. -/
theorem text_eq (part : Section) :
    part.text = part.subject.title ++ ("(" ++ (toString part.bytes.length ++
      (" bytes)]\n" ++ Text.unlines part.details))) := by
  have close : " bytes)]\n" = " bytes)]" ++ "\n" := by decide
  rw [text, lines, Text.unlines_cons, heading, close]
  simp only [String.append_assoc]

/-- The bytes that sections show, with what each of them is about. -/
def content (part : Section) : Subject × Bytes := (part.subject, part.bytes)

variable {left right : Section}

/-- There is no parenthesis in the words that a heading begins with. -/
theorem Subject.title_clean (subject : Subject) : '(' ∉ subject.title.toList := by
  cases subject <;> decide

/-- Two sections with the same heading are about the same. -/
theorem subject_eq_of_heading (same : left.heading = right.heading) :
    left.subject = right.subject := by
  have titles : ∀ first second : Subject, first.title = second.title → first = second := by
    intro first second
    cases first <;> cases second <;> decide
  have chars := congrArg String.toList same
  simp only [heading, String.toList_append] at chars
  obtain ⟨fronts, -⟩ := Text.append_cons_inj left.subject.title_clean right.subject.title_clean chars
  exact titles _ _ (String.toList_inj.mp fronts)

/-- How many lines a section has after its heading. -/
def Subject.lineCount : Subject → Nat
  | ethernet => 3
  | llcSnap => 5
  | udp => 4
  | data => 1
  | pad => 1

/-- The number of lines of a section depends on what it is about. -/
theorem length_details (part : Section) : part.details.length = part.subject.lineCount := by
  cases part <;> rfl

/-- The line for the last field of the header of a frame tells the bytes of the field. -/
theorem typeLine_inj {header other : EthernetHeader} (same : typeLine header = typeLine other) :
    Bytes.bigEndian header.typeOrLength = Bytes.bigEndian other.typeOrLength := by
  have apart : ∀ rest last : String, "  Length: " ++ rest ≠ "  Type: 0x" ++ last := by
    intro rest last equal
    have chars := congrArg String.toList equal
    simp at chars
  unfold typeLine at same
  by_cases llc : header.etherType = .llc
  · by_cases otherLlc : other.etherType = .llc
    · rw [if_pos llc, if_pos otherLlc, String.append_right_inj, String.append_left_inj] at same
      exact congrArg Bytes.bigEndian (UInt16.toNat_inj.mp (Text.toString_inj same))
    · rw [if_pos llc, if_neg otherLlc] at same
      exact absurd same (apart _ _)
  · by_cases otherLlc : other.etherType = .llc
    · rw [if_neg llc, if_pos otherLlc] at same
      exact absurd same.symm (apart _ _)
    · rw [if_neg llc, if_neg otherLlc, String.append_right_inj] at same
      have chars := congrArg String.toList same
      simp only [String.toList_append] at chars
      have widths : (Bytes.hexWord header.typeOrLength).toList.length =
          (Bytes.hexWord other.typeOrLength).toList.length := by
        rw [Bytes.length_hexWord, Bytes.length_hexWord]
      exact Bytes.hexWord_inj (String.toList_inj.mp (List.append_inj chars widths).1)

/-- Sections about the same with the same lines show the same bytes. -/
theorem bytes_eq_of_details (subjects : left.subject = right.subject)
    (same : left.details = right.details) : left.bytes = right.bytes := by
  cases left with
  | ethernet header =>
    cases right with
    | ethernet other =>
      simp only [details, List.cons.injEq, String.append_right_inj, and_true] at same
      obtain ⟨destination, source, last⟩ := same
      have first : header.destination.bytes = other.destination.bytes :=
        Bytes.upperHex_inj (by decide) destination
      have second : header.source.bytes = other.source.bytes :=
        Bytes.upperHex_inj (by decide) source
      simp only [bytes, Header.bytes, Header.fields, EthernetHeader.fields, first, second,
        typeLine_inj last]
    | _ => cases subjects
  | llcSnap header =>
    cases right with
    | llcSnap other =>
      simp only [details, List.cons.injEq, String.append_right_inj, and_true] at same
      obtain ⟨destination, source, control, oui, protocol⟩ := same
      simp only [bytes, Header.bytes, Header.fields, LlcSnapHeader.fields,
        Bytes.toHex_inj destination, Bytes.toHex_inj source, Bytes.toHex_inj control,
        Bytes.toHex_inj oui, Bytes.hexWord_inj protocol]
    | _ => cases subjects
  | udp header =>
    cases right with
    | udp other =>
      simp only [details, List.cons.injEq, String.append_right_inj, and_true] at same
      obtain ⟨source, destination, length, checksum⟩ := same
      have count : header.length = other.length := UInt16.toNat_inj.mp (Text.toString_inj length)
      simp only [bytes, Header.bytes, Header.fields, UdpHeader.fields, Port.display_inj source,
        Port.display_inj destination, count, Bytes.hexWord_inj checksum]
    | _ => cases subjects
  | data shown =>
    cases right with
    | data other =>
      simp only [details, List.cons.injEq, String.append_right_inj, and_true] at same
      exact Bytes.toHex_inj same
    | _ => cases subjects
  | pad shown =>
    cases right with
    | pad other =>
      simp only [details, List.cons.injEq, String.append_right_inj, and_true] at same
      exact Bytes.toHex_inj same
    | _ => cases subjects

/-- The heading of a section has no break inside. -/
theorem heading_inline (part : Section) : Inline part.heading := by
  have titles : ∀ subject : Subject, Inline subject.title := by
    intro subject
    cases subject <;> decide
  have count : Inline (toString part.bytes.length) := Text.toString_inline _
  exact (titles part.subject).append (.append (by decide) (count.append (by decide)))

/-- The line for the last field of the header of a frame has no break inside. -/
theorem typeLine_inline (header : EthernetHeader) : Inline (typeLine header) := by
  have number : Inline (toString header.typeOrLength.toNat) := Text.toString_inline _
  have word : Inline (Bytes.hexWord header.typeOrLength) := Bytes.toHex_inline (by decide) _
  have name : Inline header.etherType.display := header.etherType.display_inline
  unfold typeLine
  by_cases llc : header.etherType = .llc
  · rw [if_pos llc]
    exact .append (by decide) (number.append (by decide))
  · rw [if_neg llc]
    exact .append (by decide) (word.append (.append (by decide) (name.append (by decide))))

/-- No line of a section has a break inside. -/
theorem lines_inline (part : Section) : ∀ line ∈ part.lines, Inline line := by
  have plain : ∀ (label : String) (bytes : Bytes), Inline label →
      Inline (label ++ Bytes.toHex "" bytes) :=
    fun label bytes clean => clean.append (Bytes.toHex_inline (by decide) bytes)
  have stream : ∀ bytes : Bytes, Inline ("  Hex stream: " ++ Bytes.toHex " " bytes) :=
    fun bytes => .append (by decide) (Bytes.toHex_inline (by decide) bytes)
  suffices details : part.details.Forall Inline by
    intro line member
    rcases List.mem_cons.mp member with rfl | member
    · exact part.heading_inline
    · exact List.forall_iff_forall_mem.mp details line member
  cases part with
  | ethernet header =>
    refine ⟨?_, ?_, typeLine_inline header⟩
    · exact .append (by decide) (Bytes.upperHex_inline (by decide) _)
    · exact .append (by decide) (Bytes.upperHex_inline (by decide) _)
  | llcSnap header =>
    refine ⟨plain _ _ (by decide), plain _ _ (by decide), plain _ _ (by decide), ?_,
      plain _ _ (by decide)⟩
    exact .append (by decide) (Bytes.toHex_inline (by decide) _)
  | udp header =>
    refine ⟨?_, ?_, ?_, plain _ _ (by decide)⟩
    · exact .append (by decide) header.source.display_inline
    · exact .append (by decide) header.destination.display_inline
    · exact .append (by decide) (Text.toString_inline _)
  | data shown => exact stream shown
  | pad shown => exact stream shown

/-- No line of sections one after another has a break inside. -/
theorem flatMap_lines_inline (parts : List Section) : ∀ line ∈ parts.flatMap lines, Inline line := by
  intro line member
  obtain ⟨part, -, inside⟩ := List.mem_flatMap.mp member
  exact part.lines_inline line inside

/-- Sections are told, up to their bytes, by the lines that they make together. -/
theorem content_eq_of_lines {parts others : List Section}
    (same : parts.flatMap lines = others.flatMap lines) :
    parts.map content = others.map content := by
  induction parts generalizing others with
  | nil =>
    cases others with
    | nil => rfl
    | cons part rest => exact absurd same.symm (List.cons_ne_nil _ _)
  | cons part rest ih =>
    cases others with
    | nil => exact absurd same (List.cons_ne_nil _ _)
    | cons other others =>
      rw [List.flatMap_cons, List.flatMap_cons, lines, lines, List.cons_append,
        List.cons_append] at same
      obtain ⟨headings, onward⟩ := List.cons.inj same
      have subjects := subject_eq_of_heading headings
      have counts : part.details.length = other.details.length := by
        rw [length_details, length_details, subjects]
      obtain ⟨ownDetails, rests⟩ := List.append_inj onward counts
      have bytes := bytes_eq_of_details subjects ownDetails
      rw [List.map_cons, List.map_cons, ih rests, content, content, subjects, bytes]

/-- The texts of sections one after another are those of all their lines. -/
theorem join_text (parts : List Section) :
    String.join (parts.map text) = Text.unlines (parts.flatMap lines) := by
  induction parts with
  | nil => rfl
  | cons part rest ih =>
    rw [List.map_cons, String.join_cons, ih, List.flatMap_cons, Text.unlines_append, text]

/-- Sections are told, up to their bytes, by the text that they make together. -/
theorem content_eq_of_text {parts others : List Section}
    (same : String.join (parts.map text) = String.join (others.map text)) :
    parts.map content = others.map content := by
  rw [join_text, join_text] at same
  exact content_eq_of_lines
    (Text.unlines_inj (flatMap_lines_inline parts) (flatMap_lines_inline others) same)

end Section

end Encapsulation
