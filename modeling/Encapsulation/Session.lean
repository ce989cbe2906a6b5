import Encapsulation.Comparison
import Std.Data.TreeMap

/-!
# Sessions

In a session, builders and packets have names. Storing under a name replaces what was there, and a
builder that is put under another one gives up its name, whether it was taken or refused. A refused
payload leaves the builder that refused as it was.
-/
namespace Encapsulation

/-- A builder under a name. -/
structure StoredBuilder where
  /-- The builder. -/
  builder : Builder
  /-- Whether a packet gave the builder back, so that its outermost layer is not known by sort. -/
  reopened : Bool

/-- Builders and packets by name, and the bench they are on. -/
structure Session where
  /-- The bench. -/
  bench : Workbench
  /-- The builders. -/
  builders : Std.TreeMap String StoredBuilder
  /-- The chain numbers of the packets. -/
  packets : Std.TreeMap String Nat

/-- A step of a session. -/
abbrev Act : Type → Type := EStateM Failure Session

namespace Session

/-- The session at the start. -/
def initial : Session := ⟨.initial, ∅, ∅⟩

/-- Use the bench of a session. -/
def onBench {α : Type} (operation : Use α) : Act α := fun session =>
  match operation session.bench with
  | .ok value bench => .ok value { session with bench }
  | .error failure bench => .error failure { session with bench }

/-- The builder of a name. -/
def stored (name : String) : Act StoredBuilder := do
  match (← get).builders[name]? with
  | some stored => return stored
  | none => throw .absent

/-- Store a builder under a name. -/
def store (name : String) (stored : StoredBuilder) : Act Unit :=
  modify fun session => { session with builders := session.builders.insert name stored }

/-- Take a builder away from its name. -/
def release (name : String) : Act Builder := do
  let stored ← stored name
  modify fun session => { session with builders := session.builders.erase name }
  return stored.builder

/-- The packet at a position of the chain of a name. -/
def packet (name : String) (position : Nat) : Act Located := do
  match (← get).packets[name]? with
  | some chain => onBench (Workbench.locate chain position)
  | none => throw .absent

/-- Store a chain under a name. -/
def storePacket (name : String) (chain : Nat) : Act Unit :=
  modify fun session => { session with packets := session.packets.insert name chain }

/-- Make a builder out of layers, each enclosing the next, and store it. -/
def draft (name : String) (outermost : Builder) (inner : List Builder) : Act Builder := do
  let builder ← onBench (Workbench.settle (Builder.stack outermost inner))
  store name ⟨builder, false⟩
  return builder

/-- Edit the outermost layer of a builder. One that a packet gave back has no layer to edit that is
known by sort, and stays as it is. -/
def configure (name : String) (changes : List Edit) : Act Builder := do
  let found ← stored name
  let builder :=
    if found.reopened then found.builder else changes.foldl Builder.edit found.builder
  store name { found with builder }
  return builder

/-- Put builders under another one, one after another. -/
def attach (name : String) (payloads : List String) : Act Builder := do
  let payloads ← payloads.mapM release
  let found ← stored name
  let builder ← onBench (Workbench.settle (found.builder.attachAll payloads))
  store name { found with builder }
  return builder

/-- Build a packet from some layer of a builder inwards, or from its innermost layer, and store
it. -/
def build (name : String) (position : Nat) (target : String) : Act Located := do
  let found ← stored name
  let chain ← onBench (Workbench.build (found.builder.innerOrLast position))
  storePacket target chain
  packet target 0

/-- Store a packet of raw data. -/
def storeData (target : String) (data : Bytes) : Act Located := do
  let chain ← onBench (Workbench.build (.unknown data))
  storePacket target chain
  packet target 0

/-- Store the builder that a packet gives back. -/
def reopen (name : String) (position : Nat) (target : String) : Act Builder := do
  let found ← packet name position
  let builder := found.packet.reopen
  store target ⟨builder, true⟩
  return builder

end Session

end Encapsulation
