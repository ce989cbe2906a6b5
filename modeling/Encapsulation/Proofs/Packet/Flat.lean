import Encapsulation.Proofs.Packet.Outline
import Encapsulation.Proofs.Text.Heading
import Mathlib.Data.List.ReduceOption

/-!
# Flat form of texts

Each layer puts its header before the text of its payload and its pad behind it, so over a whole
packet the headers come in the order of a walk inwards, the raw data comes at the innermost place,
and the pads come back in the opposite order. In packets of the library the counts of bytes in all
headings together make up the length.
-/
namespace Encapsulation.Packet

/-- The texts of the headers of some layers, where there are headers. -/
def headerTexts (layers : List Packet) : List (Option String) :=
  layers.map fun inner => (header? inner).map Header.plainText

/-- The section for raw data, if the last one of some layers is raw data. -/
def dataSections (layers : List Packet) : List Section :=
  (layers.getLast?.bind Chain.data?).toList.map Section.data

/-- The sections for the pads of layers that are not empty, the last layer's first. -/
def padSections (layers : List Packet) : List Section :=
  ((layers.reverse.filterMap pad?).filter fun pad => !pad.isEmpty).map Section.pad

variable {packet : Packet} {layer : Layer}

/-- The header of a layer comes before those of the layers after it. -/
theorem join_headerTexts_cons (outermost : packet.layer? = some layer) (rest : List Packet) :
    String.join (headerTexts (packet :: rest)).reduceOption =
      layer.headerText ++ String.join (headerTexts rest).reduceOption := by
  rw [headerTexts, List.map_cons, header?_of_layer outermost, Layer.headerText, ← headerTexts]
  cases layer.header? with
  | none => exact (String.empty_append).symm
  | some header => exact String.join_cons

/-- The pad of a layer comes after those of the layers after it. -/
theorem padSections_cons (outermost : packet.layer? = some layer) (rest : List Packet) :
    padSections (packet :: rest) = padSections rest ++ layer.padSections := by
  have split : padSections (packet :: rest) = padSections rest ++ padSections [packet] := by
    simp only [padSections, List.reverse_cons, List.filterMap_append, List.filter_append,
      List.map_append, List.reverse_nil, List.nil_append]
  have own : padSections [packet] = layer.padSections := by
    have pads : [packet].reverse.filterMap pad? = (pad? packet).toList := by
      rw [List.reverse_singleton, List.filterMap_cons]
      cases pad? packet <;> rfl
    rw [padSections, pads, pad?, outermost]
    cases layer with
    | ethernet header pad => cases pad <;> rfl
    | llcSnap header => rfl
    | udp header => rfl
    | custom fields => rfl
  rw [split, own]

/-- A layer in front does not matter for the raw data at the end. -/
theorem dataSections_cons (outer inner : Packet) :
    dataSections (outer :: inner.walk) = dataSections inner.walk := by
  have last : (outer :: inner.walk).getLast? = inner.walk.getLast? := by
    cases inner <;> rfl
  rw [dataSections, last, dataSections]

/-- The text of a packet is flat: the headers, then the raw data, then the pads. -/
theorem plainText_eq_flat (packet : Packet) :
    packet.plainText = String.join (headerTexts packet.walk).reduceOption ++
      String.join ((dataSections packet.walk ++ padSections packet.walk).map Section.text) := by
  induction packet with
  | unknown data =>
    have headers : headerTexts [.unknown data] = [none] := rfl
    have shown : dataSections [.unknown data] ++ padSections [.unknown data] = [.data data] := rfl
    rw [plainText, describeData_eq, Chain.walk_unknown, headers, shown, List.map_singleton,
      String.join_cons, String.join_nil, String.append_empty]
    exact String.empty_append.symm
  | bare layer =>
    have none : dataSections [.bare layer] = [] := rfl
    rw [plainText, Chain.walk_bare, join_headerTexts_cons rfl, padSections_cons rfl, none,
      layer.padText_eq]
    rfl
  | wrap layer payload ih =>
    -- The header goes in front of the headers inside, and the pad behind the pads inside.
    rw [plainText, ih, Chain.walk_wrap, join_headerTexts_cons rfl, padSections_cons rfl,
      dataSections_cons, layer.padText_eq]
    simp only [List.map_append, String.join_append, String.append_assoc]

/-- The counts in the headings of the text of a packet of the library add up to its length. -/
theorem Library.sum_counts (library : packet.Library) :
    (Text.counts packet.plainText).sum = packet.plainLength := by
  rw [library.plainText_eq, Section.counts_join, ← List.length_flatMap, ← library.plainBytes_eq]
  exact library.composed.regular.agrees

end Encapsulation.Packet
