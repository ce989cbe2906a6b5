import Encapsulation.Proofs.Packet.Library
import Encapsulation.Proofs.Text.Section
import Mathlib.Algebra.GroupWithZero.Nat

/-!
# Outline of a packet

The text of a packet of the library is flat: the headers of its layers from the outermost to the
innermost, then the raw data if there is some, and then the pads that are not empty from the
innermost frame to the outermost. So the text gives back the bytes of the packet and the kinds of
its layers. It does not say which frame a pad belongs to; with one frame at most no question is
left.
-/
namespace Encapsulation

/-- The kind of layer that a section begins; a pad begins none. -/
def Section.Subject.kind? : Section.Subject → Option Kind
  | ethernet => some .ethernet
  | llcSnap => some .llcSnap
  | udp => some .udp
  | data => some .unknown
  | pad => none

namespace Layer

/-- The section for the header of a layer of the library. -/
def headerSections : Layer → List Section
  | ethernet header _ => [.ethernet header]
  | llcSnap header => [.llcSnap header]
  | udp header => [.udp header]
  | custom _ => []

/-- The section for the pad of a layer, if the pad is not empty. -/
def padSections (layer : Layer) : List Section :=
  if layer.pad.isEmpty then [] else [.pad layer.pad]

variable {layer : Layer}

/-- The last line of the header of a frame. -/
theorem typeLine_eq (header : EthernetHeader) :
    header.typeLine = Section.typeLine header ++ "\n" := by
  have length : " (LLC)\n" = " (LLC)" ++ "\n" := by decide
  have name : ")\n" = ")" ++ "\n" := by decide
  unfold EthernetHeader.typeLine Section.typeLine
  cases header.etherType <;> simp [length, name, String.append_assoc]

/-- The text of the header of a layer of the library is that of its section. -/
theorem headerText_eq (library : layer.sort.isLibrary = true) :
    layer.headerText = String.join (layer.headerSections.map Section.text) := by
  cases layer with
  | ethernet header pad =>
    have title : "[Ethernet Header (" = "[Ethernet Header " ++ "(" := by decide
    show header.describe (Header.size (.ethernet header)) =
      String.join [(Section.ethernet header).text]
    unfold EthernetHeader.describe
    rw [title, typeLine_eq, String.join_cons, String.join_nil, Section.text_eq]
    simp only [Section.details, Section.subject, Section.Subject.title, Section.bytes,
      Header.length_bytes, Text.unlines_cons, Text.unlines_nil, String.append_assoc,
      String.append_empty]
  | llcSnap header =>
    have title : "[LLC/SNAP Header (" = "[LLC/SNAP Header " ++ "(" := by decide
    show header.describe (Header.size (.llcSnap header)) =
      String.join [(Section.llcSnap header).text]
    unfold LlcSnapHeader.describe
    rw [title, String.join_cons, String.join_nil, Section.text_eq]
    simp only [Section.details, Section.subject, Section.Subject.title, Section.bytes,
      Header.length_bytes, Text.unlines_cons, Text.unlines_nil, String.append_assoc,
      String.append_empty]
  | udp header =>
    have title : "[UDP Header (" = "[UDP Header " ++ "(" := by decide
    show header.describe (Header.size (.udp header)) = String.join [(Section.udp header).text]
    unfold UdpHeader.describe
    rw [title, String.join_cons, String.join_nil, Section.text_eq]
    simp only [Section.details, Section.subject, Section.Subject.title, Section.bytes,
      Header.length_bytes, Text.unlines_cons, Text.unlines_nil, String.append_assoc,
      String.append_empty]
  | custom fields => exact absurd library (not_library_custom fields)

/-- The bytes of the header of a layer of the library are those of its section. -/
theorem headerBytes_eq (library : layer.sort.isLibrary = true) :
    layer.headerBytes = layer.headerSections.flatMap Section.bytes := by
  cases layer with
  | ethernet header pad => exact (List.append_nil _).symm
  | llcSnap header => exact (List.append_nil _).symm
  | udp header => exact (List.append_nil _).symm
  | custom fields => exact absurd library (not_library_custom fields)

/-- The section of the header of a layer of the library begins a layer of its kind. -/
theorem kind_eq (library : layer.sort.isLibrary = true) :
    (layer.headerSections.filterMap fun part => part.subject.kind?) = [layer.kind] := by
  cases layer with
  | ethernet header pad => rfl
  | llcSnap header => rfl
  | udp header => rfl
  | custom fields => exact absurd library (not_library_custom fields)

/-- The bytes of the pad of a layer are those of its section. -/
theorem pad_eq (layer : Layer) : layer.pad = layer.padSections.flatMap Section.bytes := by
  unfold padSections
  split
  case isTrue empty => exact List.isEmpty_iff.mp empty
  case isFalse => exact (List.append_nil _).symm

/-- The section of a pad begins no layer. -/
theorem padSections_filterMap (layer : Layer) :
    (layer.padSections.filterMap fun part => part.subject.kind?) = [] := by
  unfold padSections
  split <;> rfl

/-- The text of the pad of a layer is that of its section. -/
theorem padText_eq (layer : Layer) :
    layer.padText = String.join (layer.padSections.map Section.text) := by
  unfold padText padSections
  split
  · rfl
  · have title : "[Ethernet Pad (" = "[Ethernet Pad " ++ "(" := by decide
    rw [title, List.map_singleton, String.join_cons, String.join_nil, Section.text_eq]
    simp only [Section.details, Section.subject, Section.Subject.title, Section.bytes,
      Text.unlines_cons, Text.unlines_nil, String.append_assoc, String.append_empty]

end Layer

namespace Packet

/-- The sections of the text of a packet of the library. -/
def sections : Packet → List Section
  | .unknown data => [.data data]
  | .bare layer => layer.headerSections ++ layer.padSections
  | .wrap layer payload => layer.headerSections ++ sections payload ++ layer.padSections

variable {packet left right : Packet}

/-- The text of raw data is that of its section. -/
theorem describeData_eq (data : Bytes) :
    describeData data data.length = (Section.data data).text := by
  have title : "[Unknown Packet (" = "[Unknown Packet " ++ "(" := by decide
  unfold describeData
  rw [title, Section.text_eq]
  simp only [Section.details, Section.subject, Section.Subject.title, Section.bytes,
    Text.unlines_cons, Text.unlines_nil, String.append_assoc, String.append_empty]

/-- The text of a packet of the library is that of its sections. -/
theorem Library.plainText_eq (library : packet.Library) :
    packet.plainText = String.join (packet.sections.map Section.text) := by
  induction packet with
  | unknown data =>
    rw [plainText, describeData_eq, sections, List.map_singleton, String.join_cons,
      String.join_nil, String.append_empty]
  | bare layer =>
    rw [plainText, Layer.headerText_eq library, layer.padText_eq, String.append_empty, sections,
      List.map_append, String.join_append]
  | wrap layer payload ih =>
    rw [plainText, Layer.headerText_eq library.1, layer.padText_eq, ih library.2, sections,
      List.map_append, List.map_append, String.join_append, String.join_append]

/-- The bytes of a packet of the library are those of its sections. -/
theorem Library.plainBytes_eq (library : packet.Library) :
    packet.plainBytes = packet.sections.flatMap Section.bytes := by
  induction packet with
  | unknown data => exact (List.append_nil _).symm
  | bare layer =>
    rw [plainBytes, (Layer.composed_of_library library).plainBytes_eq, List.append_nil, sections,
      List.flatMap_append, ← Layer.headerBytes_eq library, ← layer.pad_eq]
  | wrap layer payload ih =>
    rw [plainBytes, (Layer.composed_of_library library.1).plainBytes_eq, ih library.2, sections,
      List.flatMap_append, List.flatMap_append, ← Layer.headerBytes_eq library.1, ← layer.pad_eq]

/-- The kinds of the layers of a packet of the library are those that its sections begin. -/
theorem Library.kinds_eq (library : packet.Library) :
    packet.kinds = packet.sections.filterMap fun part => part.subject.kind? := by
  induction packet with
  | unknown data => rfl
  | bare layer =>
    rw [sections, List.filterMap_append, Layer.kind_eq library, layer.padSections_filterMap]
    rfl
  | wrap layer payload ih =>
    rw [sections, List.filterMap_append, List.filterMap_append, Layer.kind_eq library.1,
      layer.padSections_filterMap, ← ih library.2, List.append_nil]
    rfl

/-- The number of frames among the layers of a packet. -/
def frames (packet : Packet) : Nat :=
  packet.walk.countP fun inner => Chain.sort inner == .ethernet

/-- The outermost layer counts along with those of the payload if it is a frame. -/
theorem frames_wrap (layer : Layer) (payload : Packet) :
    frames (.wrap layer payload) = payload.frames + if layer.sort = .ethernet then 1 else 0 := by
  rw [frames, Chain.walk_wrap, List.countP_cons, frames]
  simp only [beq_iff_eq]
  rfl

/-- A single layer counts if it is a frame. -/
theorem frames_bare (layer : Layer) :
    frames (.bare layer) = if layer.sort = .ethernet then 1 else 0 := by
  rw [frames, Chain.walk_bare, List.countP_singleton]
  simp only [beq_iff_eq]
  rfl

/-- The number of bytes that a section shows of a pad. -/
def padSize (part : Section.Subject × Bytes) : Nat :=
  if part.1 = .pad then part.2.length else 0

/-- The number of bytes of all pads of a packet. -/
def padTotal (packet : Packet) : Nat := (packet.padLengths.map fun length => length.getD 0).sum

/-- The pad of the outermost layer counts along with those of the payload. -/
theorem padTotal_wrap (layer : Layer) (payload : Packet) :
    padTotal (.wrap layer payload) = layer.pad.length + payload.padTotal := by
  have own : ((pad? (.bare layer)).map List.length).getD 0 = layer.pad.length := by
    cases layer <;> rfl
  rw [padTotal, padLengths_wrap, List.map_cons, List.sum_cons, own, padTotal]

/-- A layer without a payload has no pad but its own. -/
theorem padTotal_bare (layer : Layer) : padTotal (.bare layer) = layer.pad.length := by
  cases layer <;> rfl

/-- The bytes of all pads are those of the sections for pads. -/
theorem padTotal_eq (packet : Packet) :
    packet.padTotal = (packet.sections.map fun part => padSize part.content).sum := by
  have own : ∀ layer : Layer, layer.pad.length =
      (layer.headerSections.map fun part => padSize part.content).sum +
        (layer.padSections.map fun part => padSize part.content).sum := by
    intro layer
    have headers : (layer.headerSections.map fun part => padSize part.content).sum = 0 := by
      cases layer <;> rfl
    have pads : (layer.padSections.map fun part => padSize part.content).sum =
        layer.pad.length := by
      unfold Layer.padSections
      split
      case isTrue empty =>
        rw [List.isEmpty_iff.mp empty, List.map_nil, List.sum_nil, List.length_nil]
      case isFalse => exact Nat.add_zero _
    rw [headers, pads, Nat.zero_add]
  induction packet with
  | unknown data => rfl
  | bare layer => rw [padTotal_bare, sections, List.map_append, List.sum_append, own]
  | wrap layer payload ih =>
    rw [padTotal_wrap, sections, List.map_append, List.map_append, List.sum_append,
      List.sum_append, ← ih, own]
    omega

/-- A layer that is no frame has no pad. -/
theorem pad_eq_nil {layer : Layer} (unframed : layer.sort ≠ .ethernet) : layer.pad = [] :=
  Layer.pad_eq_nil fun _ _ same => unframed (same ▸ rfl)

/-- Without frames there are no pads. -/
theorem padTotal_eq_zero (frameless : packet.frames = 0) : packet.padTotal = 0 := by
  induction packet with
  | unknown data => rfl
  | bare layer =>
    have unframed : layer.sort ≠ .ethernet := by
      intro framed
      rw [frames_bare, if_pos framed] at frameless
      cases frameless
    rw [padTotal_bare, pad_eq_nil unframed, List.length_nil]
  | wrap layer payload ih =>
    rw [frames_wrap] at frameless
    have unframed : layer.sort ≠ .ethernet := by
      intro framed
      rw [if_pos framed] at frameless
      cases frameless
    rw [if_neg unframed] at frameless
    rw [padTotal_wrap, ih frameless, pad_eq_nil unframed, List.length_nil]

/-- Packets of one shape have as many frames. -/
theorem SameShape.frames_eq (shape : SameShape left right) : left.frames = right.frames := by
  induction shape with
  | unknown data otherData => rfl
  | bare akin => cases akin <;> rfl
  | wrap akin _ ih =>
    have sorts := akin.sort_eq
    rw [frames_wrap, frames_wrap, ih, sorts]

/-- Packets of one shape with one frame at most have pads of the same lengths if they have as many
bytes of pads. -/
theorem SameShape.padLengths_eq (shape : SameShape left right) (single : left.frames ≤ 1)
    (totals : left.padTotal = right.padTotal) : left.padLengths = right.padLengths := by
  induction shape with
  | unknown data otherData => rfl
  | bare akin =>
    rw [padTotal_bare, padTotal_bare] at totals
    exact (padLengths_bare_iff akin).mpr totals
  | @wrap layer other payload otherPayload akin inside ih =>
    rw [frames_wrap] at single
    rw [padTotal_wrap, padTotal_wrap] at totals
    have pads : layer.pad.length = other.pad.length ∧
        payload.padTotal = otherPayload.padTotal := by
      by_cases framed : layer.sort = .ethernet
      -- The frame is the only one, so that the payloads have no pads.
      · rw [if_pos framed] at single
        have frameless : payload.frames = 0 := by omega
        have none : payload.padTotal = 0 := padTotal_eq_zero frameless
        have otherNone : otherPayload.padTotal = 0 :=
          padTotal_eq_zero (inside.frames_eq.symm.trans frameless)
        omega
      · have otherFramed : other.sort ≠ .ethernet := akin.sort_eq ▸ framed
        rw [pad_eq_nil framed, pad_eq_nil otherFramed] at totals ⊢
        simpa using totals
    have onward := ih (Nat.le_trans (Nat.le_add_right _ _) single) pads.2
    rw [padLengths_wrap, padLengths_wrap, (length_pad?_iff akin).mpr pads.1, onward]

/-- Packets of the library with the same text have sections of the same contents. -/
theorem Library.contents_eq (library : left.Library) (otherLibrary : right.Library)
    (same : left.plainText = right.plainText) :
    left.sections.map Section.content = right.sections.map Section.content := by
  rw [library.plainText_eq, otherLibrary.plainText_eq] at same
  exact Section.content_eq_of_text same

/-- Packets of the library with the same text have the same bytes. -/
theorem Library.plainBytes_eq_of_plainText (library : left.Library)
    (otherLibrary : right.Library) (same : left.plainText = right.plainText) :
    left.plainBytes = right.plainBytes := by
  have contents := library.contents_eq otherLibrary same
  have bytes := congrArg (List.flatMap Prod.snd) contents
  rw [List.flatMap_map, List.flatMap_map] at bytes
  rw [library.plainBytes_eq, otherLibrary.plainBytes_eq]
  exact bytes

/-- Packets of the library with the same text are equal if there is one frame in them at most. -/
theorem Library.plainEquals_of_plainText (library : left.Library) (otherLibrary : right.Library)
    (single : left.frames ≤ 1) (same : left.plainText = right.plainText) :
    left.plainEquals right = true := by
  have contents := library.contents_eq otherLibrary same
  have kinds : left.kinds = right.kinds := by
    have begun := congrArg (List.filterMap fun part => part.1.kind?) contents
    rw [List.filterMap_map, List.filterMap_map] at begun
    rw [library.kinds_eq, otherLibrary.kinds_eq]
    exact begun
  have totals : left.padTotal = right.padTotal := by
    have sizes := congrArg (fun parts => (parts.map padSize).sum) contents
    simp only [List.map_map] at sizes
    rw [padTotal_eq, padTotal_eq]
    exact sizes
  have shape := library.sameShape_of_kinds otherLibrary kinds
  exact (library.plainEquals_iff otherLibrary).mpr ⟨kinds, shape.padLengths_eq single totals,
    library.plainBytes_eq_of_plainText otherLibrary same⟩

end Packet

end Encapsulation
