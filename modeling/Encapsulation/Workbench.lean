import Encapsulation.Access.Build
import Encapsulation.Access.Equality

/-!
# Workbenches

A workbench holds every packet built on it, by chain number, and every copy made of a header, by
serial number, together with what all of them remember. An operation ends with a result or with a
failure; either way the bench goes on from the state that was reached. Chain numbers and serial
numbers are never used twice, not even after a build that failed.
-/
namespace Encapsulation

/-- Why an operation did not give a result. -/
inductive Failure where
  /-- A builder refused a payload. -/
  | refused (refusal : Refusal)
  /-- An access to what packets remember failed. -/
  | faulted (fault : Fault)
  /-- A cell was asked for while it was being computed. -/
  | reentered (cell : Cell)
  /-- There is nothing of that name or number. -/
  | absent

/-- Packets and copies of headers, with what they remember. -/
structure Workbench where
  /-- What is remembered, and the events so far. -/
  memory : Memory
  /-- The outermost packet of each chain, unless its build failed. -/
  chains : Array (Option Packet)
  /-- The copies made of headers. -/
  copies : Array Header

/-- A packet on a bench: a layer of a numbered chain, with all layers inside it. -/
structure Located where
  /-- The number of the chain. -/
  chain : Nat
  /-- The layer and those inside it. -/
  packet : Packet

/-- An operation on a workbench. -/
abbrev Use : Type → Type := EStateM Failure Workbench

/-- The failure that a halted access is reported as. -/
def Failure.ofHalt : Memo.Halt Cell Fault → Failure
  | .reentered cell => reentered cell
  | .failed fault _ => faulted fault

namespace Workbench

/-- The bench at the start. -/
def initial : Workbench := ⟨.initial, #[], #[]⟩

/-- Carry out an access on what a bench remembers. -/
def access {α : Type} (action : Access α) : Use α := fun bench =>
  match action.perform bench.memory with
  | (.ok value, memory) => .ok value { bench with memory }
  | (.error halt, memory) => .error (.ofHalt halt) { bench with memory }

/-- The packet at a position of a chain. -/
def locate (chain position : Nat) : Use Located := do
  match ((← get).chains[chain]?.join).bind (·.inner? position) with
  | some packet => return ⟨chain, packet⟩
  | none => throw .absent

/-- Build a packet under a new chain number. -/
def build (builder : Builder) : Use Nat := do
  let chain := (← get).chains.size
  modify fun bench => { bench with chains := bench.chains.push none }
  let packet ← access (builder.build chain)
  modify fun bench => { bench with chains := bench.chains.set! chain (some packet) }
  return chain

/-- A view of a packet. -/
def read (target : Located) (view : View) : Use view.Value :=
  access (target.packet.read target.chain view)

/-- A view of the header of a packet, if it has one. -/
def readHeader (target : Located) (view : View) : Use (Option view.Value) :=
  match target.packet.header? with
  | some header => some <$> access (header.read (target.packet.headerObject target.chain) view)
  | none => return none

/-- A bank in which the cells of a new object start with what another object remembers. -/
def copyCells (source target : Object) (bank : Memo.Bank Cell Cell.Value) :
    Memo.Bank Cell Cell.Value :=
  let copyCell (copied : Memo.Bank Cell Cell.Value) (view : View) :=
    let remembered : Option view.Value := copied.get? (Cell.mk source view)
    copied.renew (Cell.mk target view) remembered
  View.all.foldl copyCell bank

/-- Copy a header: the copy starts with what the header remembers, and goes its own way. -/
def duplicate (object : Object) (header : Header) : Use Nat := do
  let serial := (← get).copies.size
  modify fun bench =>
    { bench with
      memory := { bench.memory with bank := copyCells object (.copy serial) bench.memory.bank }
      copies := bench.copies.push header }
  return serial

/-- Copy the header of a packet, if it has one. -/
def copyHeader (target : Located) : Use (Option Nat) :=
  match target.packet.header? with
  | some header => some <$> duplicate (target.packet.headerObject target.chain) header
  | none => return none

/-- Copy a copy of a header. -/
def copyCopy (serial : Nat) : Use Nat := do
  match (← get).copies[serial]? with
  | some header => duplicate (.copy serial) header
  | none => throw .absent

/-- A view of a copy of a header. -/
def readCopy (serial : Nat) (view : View) : Use view.Value := do
  match (← get).copies[serial]? with
  | some header => access (header.read (.copy serial) view)
  | none => throw .absent

/-- Whether one packet counts as equal to another. -/
def equals (left right : Located) : Use Bool :=
  access (left.packet.equals left.chain right.chain right.packet)

/-- Whether the header of one packet equals that of another, if both have one. -/
def headerEquals? (left right : Located) : Use (Option Bool) :=
  access (left.packet.headerEquals? left.chain right.chain right.packet)

/-- Report an event. -/
def report (event : Event) : Use Unit := access (Memo.Eval.emit event)

/-- The result of an operation on builders; a refusal is reported as an event as well. -/
def settle {α : Type} : Except Refusal α → Use α
  | .ok value => return value
  | .error refusal => do
    report (.payloadRejected refusal.kind refusal.payload)
    throw (.refused refusal)

end Workbench

end Encapsulation
