import Encapsulation.Proofs.Access.Moment
import Encapsulation.Proofs.Memo.Dependence

/-!
# What views are worked out from

A view of an object is worked out from other views of the object, or from the same view of the parts
of a packet. Steps go by a book if they let every view of what is in the book be remembered once what
it is worked out from is, and never lose anything.
-/
namespace Encapsulation

open Memo (Bank)
open Relation (ReflTransGen)

/-- The cells that a view of a header is worked out from. -/
def Header.needs (object : Object) (header : Header) : View → Set Cell
  | .length | .bytes => ∅
  | .hex | .hash => {⟨object, .bytes⟩}
  | .text =>
    match header with
    | .custom fields => { cell | fields.text = none ∧ cell = ⟨object, .hex⟩ }
    | _ => {⟨object, .length⟩}

namespace Packet

/-- The cells of a view of the header and of the payload of a packet. -/
def parts (chain : Nat) (packet : Packet) (view : View) : Set Cell :=
  { cell |
    (packet.header?.isSome = true ∧ cell = ⟨packet.headerObject chain, view⟩) ∨
      ∃ payload : Packet, packet.payload? = some payload ∧ cell = ⟨payload.object chain, view⟩ }

/-- The length of a packet is found by a rule. -/
def HasRule (packet : Packet) (rule : LengthRule) : Prop :=
  ∃ layer, packet.layer? = some layer ∧ layer.lengthRule = rule

/-- The cells that a view of a packet is worked out from. -/
def needs (chain : Nat) (packet : Packet) : View → Set Cell
  | .length =>
    { cell |
      (packet.HasRule .composed ∧ cell ∈ packet.parts chain .length) ∨
        (packet.HasRule .measured ∧ cell = ⟨packet.object chain, .bytes⟩) }
  | .bytes => { cell | packet.Composes ∧ cell ∈ packet.parts chain .bytes }
  | .hex | .hash => {⟨packet.object chain, .bytes⟩}
  | .text =>
    { cell |
      (packet.data?.isSome = true ∧ cell = ⟨packet.object chain, .length⟩) ∨
        cell ∈ packet.parts chain .text }

end Packet

/-- The cells that the view of a cell is worked out from, by a book. -/
def Book.needs (book : Book) (cell : Cell) : Set Cell :=
  match book cell.object with
  | some (.packet packet) => packet.needs cell.object.number cell.view
  | some (.header header) => header.needs cell.object cell.view
  | none => ∅

section Book

variable {book larger : Book} {object : Object} {view : View}

/-- What a view of a header in a book is worked out from. -/
theorem Book.needs_of_header {header : Header} (booked : book object = some (.header header)) :
    Book.needs book ⟨object, view⟩ = header.needs object view := by
  simp only [Book.needs, booked]

/-- What a view of a packet in a book is worked out from. -/
theorem Book.needs_of_packet {chain : Nat} {packet : Packet}
    (booked : book (packet.object chain) = some (.packet packet)) :
    Book.needs book ⟨packet.object chain, view⟩ = packet.needs chain view := by
  simp only [Book.needs, booked]
  rfl

/-- By a book that lists more, views are worked out from no less. -/
theorem Book.needs_mono
    (more : ∀ object item, book object = some item → larger object = some item) (cell : Cell) :
    Book.needs book cell ⊆ Book.needs larger cell := by
  unfold Book.needs
  cases listed : book cell.object with
  | none => exact Set.empty_subset _
  | some item =>
    rw [more cell.object item listed]

end Book

/-- The cells in a set are filled. -/
def Supplied (cells : Set Cell) (bank : Bank Cell Cell.Value) : Prop :=
  ∀ cell ∈ cells, bank.isFilled cell = true

/-- Steps of some kind let an empty cell be filled in the banks that are ready for it. -/
def Lets (step : Memory → Memory → Prop) (cell : Cell) (ready : Bank Cell Cell.Value → Prop) :
    Prop :=
  ∀ (memory : Memory) (value : cell.Value), memory.bank.get? cell = none → ready memory.bank →
    step memory { memory with bank := memory.bank.fill cell value }

/-- Steps of some kind never lose what is remembered. -/
def Retains (step : Memory → Memory → Prop) : Prop :=
  ∀ before after : Memory, step before after →
    ∀ cell, before.bank.isFilled cell = true → after.bank.isFilled cell = true

/-- What is remembered is not lost in many steps. -/
theorem Retains.many {step : Memory → Memory → Prop} (retains : Retains step)
    {before after : Memory} (steps : ReflTransGen step before after) {cell : Cell}
    (full : before.bank.isFilled cell = true) : after.bank.isFilled cell = true := by
  induction steps with
  | refl => exact full
  | tail _ last ih => exact retains _ _ last cell ih

/-- Steps of some kind let a view be remembered throughout a packet, in each layer and header once
what it is worked out from is remembered there. -/
structure Packet.Admits (step : Memory → Memory → Prop) (chain : Nat) (packet : Packet)
    (view : View) : Prop where
  /-- Nothing is lost. -/
  retains : Retains step
  /-- The view is remembered in layers. -/
  layers : ∀ inner : Packet, inner ∈ packet.walk →
    Lets step ⟨inner.object chain, view⟩ (Supplied (inner.needs chain view))
  /-- The view is remembered in headers. -/
  headers : ∀ inner : Packet, inner ∈ packet.walk → ∀ header, inner.header? = some header →
    Lets step ⟨inner.headerObject chain, view⟩
      (Supplied (header.needs (inner.headerObject chain) view))

/-- What a packet is let remember, each packet in it is. -/
theorem Packet.Admits.inner {step : Memory → Memory → Prop} {chain : Nat} {packet inner : Packet}
    {view : View} (admits : packet.Admits step chain view) (member : inner ∈ packet.walk) :
    inner.Admits step chain view :=
  ⟨admits.retains, fun _ walked => admits.layers _ (Chain.mem_walk_trans member walked),
    fun _ walked => admits.headers _ (Chain.mem_walk_trans member walked)⟩

/-- Steps of some kind go by a book: they let whatever is in the book be remembered once what it is
worked out from is remembered, and lose nothing. -/
structure Follows (book : Book) (step : Memory → Memory → Prop) : Prop where
  /-- Nothing is lost. -/
  keeps : ∀ {before after : Memory}, step before after → ∀ {cell : Cell} {value : cell.Value},
    before.bank.get? cell = some value → after.bank.get? cell = some value
  /-- A view other than the bytes is remembered. -/
  derive : ∀ cell : Cell, cell.view ≠ .bytes → Lets step cell (Supplied (Book.needs book cell))
  /-- The bytes of a header are built. -/
  buildHeader : ∀ (memory : Memory) (object : Object) (header : Header),
    book object = some (.header header) → memory.bank.get? ⟨object, .bytes⟩ = none →
      step memory (memory.withBytes object header.kind header.bytes)
  /-- The bytes of a packet are built. -/
  buildPacket : ∀ (memory : Memory) (chain : Nat) (packet : Packet) (bytes : Bytes),
    book (packet.object chain) = some (.packet packet) →
    memory.bank.get? ⟨packet.object chain, .bytes⟩ = none →
    (packet.Composes → packet.PartsReady chain memory.bank) →
      step memory (memory.withBytes (packet.object chain) packet.kind bytes)

namespace Follows

variable {book : Book} {step : Memory → Memory → Prop}

/-- What is remembered keeps its value in many steps. -/
theorem keeps_many (follows : Follows book step) {before after : Memory}
    (steps : ReflTransGen step before after) {cell : Cell} {value : cell.Value}
    (full : before.bank.get? cell = some value) : after.bank.get? cell = some value := by
  induction steps with
  | refl => exact full
  | tail _ last ih => exact follows.keeps last ih

/-- What is remembered is not lost. -/
theorem retains (follows : Follows book step) : Retains step := by
  intro before after taken cell full
  obtain ⟨value, content⟩ := Option.isSome_iff_exists.mp full
  exact Option.isSome_iff_exists.mpr ⟨value, follows.keeps taken content⟩

/-- A view of a header in the book, other than its bytes, is remembered. -/
theorem derive_header (follows : Follows book step) {object : Object} {header : Header}
    (booked : book object = some (.header header)) {view : View} (derived : view ≠ .bytes) :
    Lets step ⟨object, view⟩ (Supplied (header.needs object view)) :=
  Book.needs_of_header booked ▸ follows.derive ⟨object, view⟩ derived

/-- A view of a packet in the book, other than its bytes, is remembered. -/
theorem derive_packet (follows : Follows book step) {chain : Nat} {packet : Packet}
    (booked : book (packet.object chain) = some (.packet packet)) {view : View}
    (derived : view ≠ .bytes) :
    Lets step ⟨packet.object chain, view⟩ (Supplied (packet.needs chain view)) :=
  Book.needs_of_packet booked ▸ follows.derive ⟨packet.object chain, view⟩ derived

/-- A view other than the bytes is remembered throughout a packet in the book. -/
theorem admits (follows : Follows book step) {chain : Nat} {packet : Packet}
    (booked : packet.Booked book chain) {view : View} (derived : view ≠ .bytes) :
    packet.Admits step chain view where
  retains := follows.retains
  layers inner member := follows.derive_packet (booked inner member).1 derived
  headers inner member header present :=
    follows.derive_header ((booked inner member).2 header present) derived

end Follows

/-- Among the moments by a book are steps that go by it. -/
theorem Moment.follows (book : Book) (fresh : Nat) : Follows book (Moment book fresh) where
  keeps moment := moment.keeps
  derive cell derived memory value vacant _ := .fill memory cell value derived vacant
  buildHeader := .buildHeader
  buildPacket := .buildPacket

/-- Memories whose cells are filled after those that they need go by a book. -/
theorem ripens_follows (book : Book) :
    Follows book (Memo.State.Ripens (Book.needs book) Set.univ) where
  keeps ripens := ripens.keeps
  derive cell _ memory value _ ready := .fill memory cell value _ (Set.mem_univ _) ready
  buildHeader memory object header booked _ := by
    refine .fill memory ⟨object, .bytes⟩ header.bytes _ (Set.mem_univ _) ?_
    rw [Book.needs_of_header booked]
    exact fun needed member => absurd member (Set.notMem_empty needed)
  buildPacket memory chain packet bytes booked _ ready := by
    refine .fill memory ⟨packet.object chain, .bytes⟩ bytes _ (Set.mem_univ _) ?_
    rw [Book.needs_of_packet booked]
    rintro needed ⟨composes, ⟨headed, rfl⟩ | ⟨payload, present, rfl⟩⟩
    · exact (ready composes).header headed
    · obtain ⟨held, content, -⟩ := (ready composes).payload payload present
      exact Option.isSome_iff_exists.mpr ⟨held, content⟩

end Encapsulation
