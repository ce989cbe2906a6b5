import Encapsulation.Layer

/-!
# Chains

Packets and builders are chains: layers from the outermost to the innermost, where the innermost
may be raw data, which never has a payload. A chain is taken for its outermost layer, so the
payload of a chain is again a chain, and `Chain.walk` lists a chain and the payloads in it from
the outside in. Every query is a search of that list, and what it finds is a position in it.
-/
namespace Encapsulation

/-- Layers around raw data, or around nothing. -/
inductive Chain (α : Type) where
  /-- Raw data. -/
  | unknown (data : Bytes)
  /-- A layer without a payload. -/
  | bare (layer : α)
  /-- A layer around a payload. -/
  | wrap (layer : α) (payload : Chain α)

namespace Chain

variable {α β : Type}

/-- The outermost layer, unless the chain is raw data. -/
def layer? : Chain α → Option α
  | unknown _ => none
  | bare layer => some layer
  | wrap layer _ => some layer

/-- The raw data, if the chain is no more than that. -/
def data? : Chain α → Option Bytes
  | unknown data => some data
  | _ => none

/-- What the outermost layer is around. -/
def payload? : Chain α → Option (Chain α)
  | wrap _ payload => some payload
  | _ => none

/-- The number of layers, raw data included. -/
def depth : Chain α → Nat
  | wrap _ payload => payload.depth + 1
  | _ => 1

/-- The same chain of other layers; raw data stays as it is. -/
def map (f : α → β) : Chain α → Chain β
  | unknown data => unknown data
  | bare layer => bare (f layer)
  | wrap layer payload => wrap (f layer) (payload.map f)

/-- The chain and the payloads in it, outermost first. -/
def walk : Chain α → List (Chain α)
  | wrap layer payload => wrap layer payload :: payload.walk
  | last => [last]

/-- A chain of so many layers is walked in so many steps. -/
@[simp]
theorem length_walk (chain : Chain α) : chain.walk.length = chain.depth := by
  induction chain with
  | unknown data => rfl
  | bare layer => rfl
  | wrap layer payload ih => simp [walk, depth, ih]

/-- The chain from a layer inwards, where layer zero is the outermost one. -/
def inner? (chain : Chain α) (position : Nat) : Option (Chain α) := chain.walk[position]?

/-- The chain from a layer inwards, or from the innermost one if there are not so many. -/
def innerOrLast : Nat → Chain α → Chain α
  | position + 1, wrap _ payload => payload.innerOrLast position
  | _, chain => chain

/-- A position cut down to that of the innermost layer. -/
def clamp (chain : Chain α) (position : Nat) : Nat := min position (chain.depth - 1)

/-- The first position whose chain has a property. -/
def find? (property : Chain α → Bool) (chain : Chain α) : Option Nat :=
  chain.walk.findIdx? property

variable [Layered α]

/-- The kind of the outermost layer. -/
def kind : Chain α → Kind
  | unknown _ => .unknown
  | bare layer => Layered.kind layer
  | wrap layer _ => Layered.kind layer

/-- The sort of the outermost layer. -/
def sort : Chain α → LayerSort
  | unknown _ => .unknown
  | bare layer => Layered.sort layer
  | wrap layer _ => Layered.sort layer

/-- The kinds of the layers, outermost first. -/
def kinds (chain : Chain α) : List Kind := chain.walk.map kind

/-- The first layer of a kind or of a kind below it. -/
def firstOf? (wanted : Kind) : Chain α → Option Nat :=
  find? fun chain => wanted.accepts chain.kind

/-- The first layer whose payload is of a kind or of a kind below it. -/
def outerOf? (wanted : Kind) : Chain α → Option Nat :=
  find? fun chain =>
    match chain.payload? with
    | some payload => wanted.accepts payload.kind
    | none => false

/-- Whether some layer is of a kind or of a kind below it. -/
def contains (wanted : Kind) (chain : Chain α) : Bool := (chain.firstOf? wanted).isSome

/-- The first layer of a sort. -/
def firstOfSort? (wanted : LayerSort) : Chain α → Option Nat :=
  find? fun chain => chain.sort == wanted

end Chain

/-- A place in a walk along a chain: the layers still to come. -/
structure Cursor (α : Type) where
  /-- The next layer, unless the walk is over. -/
  upcoming : Option (Chain α)

namespace Cursor

variable {α : Type}

/-- The start of a walk. -/
def start (chain : Chain α) : Cursor α := ⟨some chain⟩

/-- The next layer and the walk after it; a walk that is over stays over. -/
def next (cursor : Cursor α) : Option (Chain α) × Cursor α :=
  match cursor.upcoming with
  | none => (none, ⟨none⟩)
  | some chain => (some chain, ⟨chain.payload?⟩)

/-- The results of asking for the next layer so many times, and the walk after that. -/
def advance (cursor : Cursor α) : Nat → List (Option (Chain α)) × Cursor α
  | 0 => ([], cursor)
  | count + 1 =>
    let (found, after) := cursor.next
    let (others, final) := after.advance count
    (found :: others, final)

end Cursor

end Encapsulation
