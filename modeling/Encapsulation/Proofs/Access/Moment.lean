import Encapsulation.Proofs.Access.Cells
import Encapsulation.Proofs.Memo.Unfold

/-!
# Moments of a memory

What can happen at one moment to what packets and headers remember: a view other than the bytes is
remembered, the bytes of an object are built, something else is reported, or a new copy of a header
starts. The bytes of an object are built where it remembers none yet, out of bytes that are
remembered of the parts they are put together from, and are reported in the same moment. There is no
other way for bytes to be reported.
-/
namespace Encapsulation

open Memo (Bank)
open Relation (ReflTransGen)

/-- What stands behind an object. -/
inductive Item where
  /-- A packet. -/
  | packet (packet : Packet)
  /-- A header. -/
  | header (header : Header)

/-- The kind of what stands behind an object. -/
def Item.kind : Item → Kind
  | .packet layers => layers.kind
  | .header fields => fields.kind

/-- What stands behind each object. -/
abbrev Book : Type := Object → Option Item

namespace Packet

/-- A book lists the layers and headers of a numbered chain. -/
def Booked (book : Book) (chain : Nat) (packet : Packet) : Prop :=
  ∀ inner : Packet, inner ∈ packet.walk →
    book (inner.object chain) = some (.packet inner) ∧
      ∀ header, inner.header? = some header → book (inner.headerObject chain) = some (.header header)

/-- The bytes of a packet are put together from those of its header and payload. -/
def Composes (packet : Packet) : Prop :=
  ∃ layer, packet.layer? = some layer ∧ layer.replacement? = none

/-- The bytes of a packet are remembered, and are as many as the length that it remembers, if it
remembers one. -/
def HasBytes (chain : Nat) (packet : Packet) (bank : Bank Cell Cell.Value) : Prop :=
  ∃ bytes : Bytes, bank.get? ⟨packet.object chain, .bytes⟩ = some bytes ∧
    ∀ length : Nat, bank.get? ⟨packet.object chain, .length⟩ = some length → bytes.length = length

/-- What the bytes of a packet are put together from is remembered. -/
structure PartsReady (chain : Nat) (packet : Packet) (bank : Bank Cell Cell.Value) : Prop where
  /-- The bytes of the header, if there is one. -/
  header : packet.header?.isSome = true →
    bank.isFilled ⟨packet.headerObject chain, .bytes⟩ = true
  /-- The bytes of the payload, if there is one, which are as many as its length. -/
  payload : ∀ payload : Packet, packet.payload? = some payload → payload.HasBytes chain bank

end Packet

/-- A memory after the bytes of an object of some kind were built. -/
def Memory.withBytes (memory : Memory) (object : Object) (kind : Kind) (bytes : Bytes) : Memory :=
  ⟨memory.bank.fill ⟨object, .bytes⟩ bytes,
    memory.events.push (.bytesBuilt object kind bytes.length)⟩

namespace Memory

variable {memory : Memory} {object : Object} {kind : Kind} {bytes : Bytes}

/-- The bytes of an object that remembered none are remembered after they were built. -/
theorem get?_withBytes_self (vacant : memory.bank.get? ⟨object, .bytes⟩ = none) :
    (memory.withBytes object kind bytes).bank.get? ⟨object, .bytes⟩ = some bytes := by
  rw [withBytes]
  exact memory.bank.get?_fill_self ⟨object, .bytes⟩ _ vacant

/-- Other cells stay as they are when the bytes of an object are built. -/
theorem get?_withBytes_of_ne {cell : Cell} (other : ⟨object, .bytes⟩ ≠ cell) :
    (memory.withBytes object kind bytes).bank.get? cell = memory.bank.get? cell := by
  rw [withBytes]
  exact memory.bank.get?_fill_of_ne _ other

end Memory

/-- One moment after another, with objects as a book lists them, and copies with new numbers only
from some number on. -/
inductive Moment (book : Book) (fresh : Nat) : Memory → Memory → Prop where
  /-- A view other than the bytes is remembered. -/
  | fill (memory : Memory) (cell : Cell) (value : cell.Value) (derived : cell.view ≠ .bytes)
    (vacant : memory.bank.get? cell = none) :
    Moment book fresh memory { memory with bank := memory.bank.fill cell value }
  /-- The bytes of a header are built. -/
  | buildHeader (memory : Memory) (object : Object) (header : Header)
    (booked : book object = some (.header header))
    (vacant : memory.bank.get? ⟨object, .bytes⟩ = none) :
    Moment book fresh memory (memory.withBytes object header.kind header.bytes)
  /-- The bytes of a packet are built. -/
  | buildPacket (memory : Memory) (chain : Nat) (packet : Packet) (bytes : Bytes)
    (booked : book (packet.object chain) = some (.packet packet))
    (vacant : memory.bank.get? ⟨packet.object chain, .bytes⟩ = none)
    (ready : packet.Composes → packet.PartsReady chain memory.bank) :
    Moment book fresh memory (memory.withBytes (packet.object chain) packet.kind bytes)
  /-- Something other than the building of bytes is reported. -/
  | report (memory : Memory) (event : Event)
    (other : ∀ object kind count, event ≠ .bytesBuilt object kind count) :
    Moment book fresh memory { memory with events := memory.events.push event }
  /-- A new copy starts with what a header remembers. -/
  | copy (memory : Memory) (source : Object) (serial : Nat) (bank : Bank Cell Cell.Value)
    (new : fresh ≤ serial) (vacant : ∀ view, memory.bank.get? ⟨.copy serial, view⟩ = none)
    (starts : ∀ view, bank.get? ⟨.copy serial, view⟩ = memory.bank.get? ⟨source, view⟩)
    (others : ∀ cell : Cell, cell.object ≠ .copy serial →
      bank.get? cell = memory.bank.get? cell) :
    Moment book fresh memory { memory with bank }

namespace Moment

variable {book larger : Book} {fresh earlier : Nat} {memory before after : Memory}

/-- What can happen by a book can happen by a book that lists more, with more numbers for copies. -/
theorem mono (moment : Moment book fresh before after)
    (more : ∀ object item, book object = some item → larger object = some item)
    (le : earlier ≤ fresh) : Moment larger earlier before after := by
  cases moment with
  | fill cell value derived vacant => exact .fill _ cell value derived vacant
  | buildHeader object header booked vacant =>
    exact .buildHeader _ object header (more _ _ booked) vacant
  | buildPacket chain packet bytes booked vacant ready =>
    exact .buildPacket _ chain packet bytes (more _ _ booked) vacant ready
  | report event other => exact .report _ event other
  | copy source serial bank new vacant starts others =>
    exact .copy _ source serial bank (Nat.le_trans le new) vacant starts others

/-- Every filled cell keeps what it holds. -/
theorem keeps (moment : Moment book fresh before after) {cell : Cell} {value : cell.Value}
    (full : before.bank.get? cell = some value) : after.bank.get? cell = some value := by
  cases moment with
  | fill filled held derived vacant => exact before.bank.get?_fill_of_eq_some held full
  | buildHeader object header booked vacant => exact before.bank.get?_fill_of_eq_some _ full
  | buildPacket chain packet bytes booked vacant ready =>
    exact before.bank.get?_fill_of_eq_some _ full
  | report event other => exact full
  | copy source serial bank new vacant starts others =>
    have other : cell.object ≠ .copy serial := by
      intro same
      have empty : before.bank.get? ⟨.copy serial, cell.view⟩ = none := vacant cell.view
      rw [← same] at empty
      cases empty.symm.trans full
    exact (others cell other).trans full

/-- Every filled cell keeps what it holds from moment to moment. -/
theorem keeps_many (moments : ReflTransGen (Moment book fresh) before after) {cell : Cell}
    {value : cell.Value} (full : before.bank.get? cell = some value) :
    after.bank.get? cell = some value := by
  induction moments with
  | refl => exact full
  | tail _ moment ih => exact moment.keeps ih

/-- Every filled cell stays filled from moment to moment. -/
theorem isFilled_many (moments : ReflTransGen (Moment book fresh) before after) {cell : Cell}
    (full : before.bank.isFilled cell = true) : after.bank.isFilled cell = true := by
  obtain ⟨value, content⟩ := Option.isSome_iff_exists.mp full
  exact Option.isSome_iff_exists.mpr ⟨value, keeps_many moments content⟩

end Moment

end Encapsulation
