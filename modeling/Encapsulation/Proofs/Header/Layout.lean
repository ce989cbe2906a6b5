import Encapsulation.Proofs.Access.Equality
import Encapsulation.Proofs.Field.Number
import Encapsulation.Proofs.Packet.Library

/-!
# The layout of headers

The headers of the library carry numbers: addresses, codes, ports, lengths and a checksum, which
are those of the fields and not read off any bytes. Each kind of header has a layout, which says at
which offset and in how many bytes each number lies. Whatever the numbers are, they are read back
from there, so two headers of one kind have the same bytes if and only if they carry the same
numbers, however these were given.
-/
namespace Encapsulation

/-- Where the numbers of a header lie in its bytes. -/
structure Layout where
  /-- The number of bytes of the header. -/
  size : Nat
  /-- The offset and the width of each number, in wire order. -/
  places : List (Nat × Nat)

namespace Header

/-- The layout of the headers of the library; those that callers define have none. -/
def layout? : Header → Option Layout
  | ethernet _ => some ⟨14, [(0, 6), (6, 6), (12, 2)]⟩
  | llcSnap _ => some ⟨8, [(0, 1), (1, 1), (2, 1), (3, 3), (6, 2)]⟩
  | udp _ => some ⟨8, [(0, 2), (2, 2), (4, 2), (6, 2)]⟩
  | custom _ => none

/-- The numbers that a header of the library carries, in wire order, each as its field gives it. -/
def numbers : Header → List Nat
  | ethernet header =>
    [header.destination.number, header.source.number, header.typeOrLength.toNat]
  | llcSnap header =>
    [header.destination.number, header.source.number, header.control.number, header.oui.number,
      header.protocol.code.toNat]
  | udp header =>
    [header.source.number.toNat, header.destination.number.toNat, header.length.toNat,
      header.checksum.toNat]
  | custom _ => []

/-- Two headers of the library that are of one kind. -/
inductive Akin : Header → Header → Prop where
  /-- Two headers of frames. -/
  | ethernet (header other : EthernetHeader) : Akin (.ethernet header) (.ethernet other)
  /-- Two headers made of an LLC and a SNAP part. -/
  | llcSnap (header other : LlcSnapHeader) : Akin (.llcSnap header) (.llcSnap other)
  /-- Two headers of datagrams. -/
  | udp (header other : UdpHeader) : Akin (.udp header) (.udp other)

variable {header other : Header} {layout : Layout}

/-- The layout of a header is that of its fields, one after another. -/
theorem layout_of_fields (known : header.layout? = some layout) :
    layout.size = header.size ∧
      layout.places = Bytes.placesFrom 0 (header.fields.map List.length) := by
  cases header with
  | ethernet header =>
    obtain rfl := Option.some.inj known
    simp [fields, EthernetHeader.fields, Bytes.placesFrom]
  | llcSnap header =>
    obtain rfl := Option.some.inj known
    simp [fields, LlcSnapHeader.fields, Bytes.placesFrom]
  | udp header =>
    obtain rfl := Option.some.inj known
    exact ⟨rfl, rfl⟩
  | custom header => cases known

/-- The numbers of a header are those that its fields spell. -/
theorem numbers_of_fields (known : header.layout? = some layout) :
    header.numbers = header.fields.map Bytes.number := by
  cases header with
  | ethernet header => simp [numbers, fields, EthernetHeader.fields]
  | llcSnap header => simp [numbers, fields, LlcSnapHeader.fields]
  | udp header => simp [numbers, fields, UdpHeader.fields]
  | custom header => cases known

/-- A header has as many bytes as its layout says, and its numbers are read back from their
places. -/
theorem read_back (known : header.layout? = some layout) :
    header.bytes.length = layout.size ∧
      layout.places.map (Bytes.numberAt header.bytes) = header.numbers := by
  obtain ⟨size, places⟩ := layout_of_fields known
  constructor
  · rw [length_bytes, size]
  · rw [places, numbers_of_fields known]
    exact Bytes.map_numberAt_placesFrom [] header.fields

/-- Headers of one kind have one layout. -/
theorem Akin.exists_layout (akin : header.Akin other) :
    ∃ layout, header.layout? = some layout ∧ other.layout? = some layout := by
  cases akin <;> exact ⟨_, rfl, rfl⟩

/-- Headers of one kind accept each other. -/
theorem Akin.accepts (akin : header.Akin other) : header.kind.accepts other.kind = true := by
  cases akin <;> rfl

/-- Headers of one kind have fields of the same widths. -/
theorem Akin.widths_eq (akin : header.Akin other) :
    header.fields.map List.length = other.fields.map List.length := by
  cases akin with
  | ethernet header other => simp [fields, EthernetHeader.fields]
  | llcSnap header other => simp [fields, LlcSnapHeader.fields]
  | udp header other => rfl

/-- Headers of one kind have the same bytes if and only if they carry the same numbers. -/
theorem Akin.bytes_eq_iff (akin : header.Akin other) :
    header.bytes = other.bytes ↔ header.numbers = other.numbers := by
  obtain ⟨layout, known, otherKnown⟩ := akin.exists_layout
  constructor
  · intro same
    rw [← (read_back known).2, ← (read_back otherKnown).2, same]
  · intro same
    rw [numbers_of_fields known, numbers_of_fields otherKnown] at same
    rw [bytes, bytes, Bytes.eq_of_map_number_eq akin.widths_eq same]

/-- A header equals another one of its kind if and only if both carry the same numbers. -/
theorem Akin.plainEquals_iff (akin : header.Akin other) :
    header.plainEquals other = true ↔ header.numbers = other.numbers := by
  rw [plainEquals, akin.accepts, Bool.true_and, beq_iff_eq, akin.bytes_eq_iff]

end Header

end Encapsulation
