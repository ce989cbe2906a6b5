import Encapsulation.Meaning
import Encapsulation.Proofs.Memo.Contract

/-!
# Cells of chains

The canon of a packet lays down for each cell of its layers and of their headers the meaning of
the view, which is found by the fields alone. The cells that a view asks for lie further in, or
belong to the same object and come before it in the order of `View.level`: this order is what
keeps a cell from asking for itself.
-/
namespace Encapsulation

open Memo (Canon)

/-- Views in the order in which they ask for each other: a view of an object asks only for views
of that object with a lower level. -/
def View.level : View → Nat
  | bytes => 0
  | length => 1
  | hex => 2
  | hash => 2
  | text => 3

/-- Every level is below four. -/
theorem View.level_lt (view : View) : view.level < 4 := by
  cases view <;> decide

/-- The cells of an object below a level. -/
def Object.cells (object : Object) (level : Nat) : Set Cell :=
  { cell | cell.object = object ∧ cell.view.level < level }

/-- The cells of the layers and headers of a numbered chain up to a depth; of the packet at that
depth itself only those below a level. -/
def reach (chain depth level : Nat) : Set Cell :=
  { cell |
    match cell.object with
    | .packet number inner =>
      number = chain ∧ (inner < depth ∨ inner = depth ∧ cell.view.level < level)
    | .header number inner => number = chain ∧ inner ≤ depth
    | .copy _ => False }

namespace Object

/-- A cell is among those of its own object below a level if its view is. -/
@[simp]
theorem mem_cells {object other : Object} {view : View} {level : Nat} :
    Cell.mk other view ∈ object.cells level ↔ other = object ∧ view.level < level := Iff.rfl

/-- Cells below a level are below a higher one. -/
theorem cells_mono (object : Object) {low high : Nat} (le : low ≤ high) :
    object.cells low ⊆ object.cells high :=
  fun _ member => ⟨member.1, Nat.lt_of_lt_of_le member.2 le⟩

end Object

section Reach

variable {chain number depth inner level : Nat} {view : View}

/-- The cells of packets in a reach. -/
@[simp]
theorem packet_mem_reach :
    Cell.mk (.packet number inner) view ∈ reach chain depth level ↔
      number = chain ∧ (inner < depth ∨ inner = depth ∧ view.level < level) := Iff.rfl

/-- The cells of headers in a reach. -/
@[simp]
theorem header_mem_reach :
    Cell.mk (.header number inner) view ∈ reach chain depth level ↔
      number = chain ∧ inner ≤ depth := Iff.rfl

/-- A reach grows with its level. -/
theorem reach_mono (chain depth : Nat) {low high : Nat} (le : low ≤ high) :
    reach chain depth low ⊆ reach chain depth high := by
  rintro ⟨object, view⟩ member
  cases object with
  | packet number inner =>
    simp only [packet_mem_reach] at member ⊢
    omega
  | header number inner => exact member
  | copy serial => exact member

/-- Everything about a payload lies inside the layer around it. -/
theorem reach_succ (chain depth level : Nat) :
    reach chain depth level ⊆ reach chain (depth + 1) 0 := by
  rintro ⟨object, view⟩ member
  cases object with
  | packet number inner =>
    simp only [packet_mem_reach] at member ⊢
    omega
  | header number inner =>
    simp only [header_mem_reach] at member ⊢
    omega
  | copy serial => exact member

/-- Everything about the header of a layer lies inside the layer. -/
theorem header_cells_subset (chain depth top level : Nat) :
    (Object.header chain depth).cells top ⊆ reach chain depth level := by
  rintro ⟨object, view⟩ member
  obtain ⟨rfl, -⟩ := Object.mem_cells.mp member
  simp

end Reach

/-- A canon lays down the meaning of each view of a header under an object. -/
def Header.Denoted (canon : Canon Cell Cell.Value) (object : Object) (header : Header) : Prop :=
  ∀ view, canon ⟨object, view⟩ = some (header.meaning view)

/-- A canon lays down the meaning of each view of the layers and headers of a numbered chain. -/
def Packet.Denoted (canon : Canon Cell Cell.Value) (chain : Nat) (packet : Packet) : Prop :=
  ∀ inner : Packet, inner ∈ packet.walk →
    (∀ view, canon ⟨inner.object chain, view⟩ = some (inner.meaning view)) ∧
      ∀ header, inner.header? = some header → header.Denoted canon (inner.headerObject chain)

namespace Chain

variable {α : Type}

/-- Raw data is walked in one step. -/
@[simp]
theorem walk_unknown (data : Bytes) : (unknown data : Chain α).walk = [unknown data] := rfl

/-- A layer without a payload is walked in one step. -/
@[simp]
theorem walk_bare (layer : α) : (bare layer).walk = [bare layer] := rfl

/-- A layer around a payload is walked before the payload. -/
@[simp]
theorem walk_wrap (layer : α) (payload : Chain α) :
    (wrap layer payload).walk = wrap layer payload :: payload.walk := rfl

/-- A chain is among those walked from it. -/
@[simp]
theorem mem_walk_self (chain : Chain α) : chain ∈ chain.walk := by
  cases chain <;> simp

/-- What is walked from a payload is walked from the layer around it. -/
theorem mem_walk_wrap {layer : α} {payload inner : Chain α} (member : inner ∈ payload.walk) :
    inner ∈ (wrap layer payload).walk := by
  simp [member]

/-- Walking goes inwards: what is walked from an inner chain is walked from the outer one. -/
theorem mem_walk_trans {outer middle inner : Chain α} (first : middle ∈ outer.walk)
    (second : inner ∈ middle.walk) : inner ∈ outer.walk := by
  induction outer with
  | unknown data =>
    rw [walk_unknown, List.mem_singleton] at first
    exact first ▸ second
  | bare layer =>
    rw [walk_bare, List.mem_singleton] at first
    exact first ▸ second
  | wrap layer payload ih =>
    rw [walk_wrap, List.mem_cons] at first
    rcases first with rfl | first
    · exact second
    · exact mem_walk_wrap (ih first)

/-- An inner chain is no deeper than the chain it is walked from. -/
theorem depth_le_of_mem_walk {chain inner : Chain α} (member : inner ∈ chain.walk) :
    inner.depth ≤ chain.depth := by
  induction chain with
  | unknown data =>
    rw [walk_unknown, List.mem_singleton] at member
    rw [member]
  | bare layer =>
    rw [walk_bare, List.mem_singleton] at member
    rw [member]
  | wrap layer payload ih =>
    rw [walk_wrap, List.mem_cons] at member
    rcases member with rfl | member
    · exact Nat.le_refl _
    · exact Nat.le_succ_of_le (ih member)

/-- No chain is without layers. -/
theorem depth_pos (chain : Chain α) : 0 < chain.depth := by
  cases chain <;> simp [depth]

/-- The chains walked from one chain are told apart by their depths. -/
theorem eq_of_mem_walk {chain left right : Chain α} (first : left ∈ chain.walk)
    (second : right ∈ chain.walk) (same : left.depth = right.depth) : left = right := by
  induction chain with
  | unknown data => simp_all
  | bare layer => simp_all
  | wrap layer payload ih =>
    rw [walk_wrap, List.mem_cons] at first second
    rcases first with rfl | first <;> rcases second with rfl | second
    · rfl
    · have bound := depth_le_of_mem_walk second
      rw [← same, depth] at bound
      omega
    · have bound := depth_le_of_mem_walk first
      rw [same, depth] at bound
      omega
    · exact ih first second

end Chain

namespace Packet

/-- The kind of a packet that is not raw data is that of its outermost layer. -/
theorem kind_of_layer {packet : Packet} {layer : Layer} (outermost : packet.layer? = some layer) :
    packet.kind = layer.kind := by
  cases packet with
  | unknown data => cases outermost
  | bare found => exact congrArg Layer.kind (Option.some.inj outermost)
  | wrap found payload => exact congrArg Layer.kind (Option.some.inj outermost)

/-- The header of a packet that is not raw data is that of its outermost layer. -/
theorem header?_of_layer {packet : Packet} {layer : Layer} (outermost : packet.layer? = some layer) :
    packet.header? = layer.header? := by
  rw [header?, outermost, Option.bind_some]

end Packet

namespace Packet.Denoted

variable {canon : Canon Cell Cell.Value} {chain : Nat} {packet : Packet}

/-- The canon of a chain is that of each chain in it. -/
theorem inner {inner : Packet} (denoted : packet.Denoted canon chain)
    (member : inner ∈ packet.walk) : inner.Denoted canon chain :=
  fun further walked => denoted further (Chain.mem_walk_trans member walked)

/-- The canon of a chain is that of its payload. -/
theorem payload {layer : Layer} {payload : Packet}
    (denoted : Packet.Denoted canon chain (.wrap layer payload)) :
    payload.Denoted canon chain :=
  denoted.inner (Chain.mem_walk_wrap payload.mem_walk_self)

/-- The canon of a chain lays down the views of its outermost layer. -/
theorem view (denoted : packet.Denoted canon chain) (view : View) :
    canon ⟨packet.object chain, view⟩ = some (packet.meaning view) :=
  (denoted packet packet.mem_walk_self).1 view

/-- The canon of a chain lays down the views of the header of its outermost layer. -/
theorem header {header : Header} (denoted : packet.Denoted canon chain)
    (present : packet.header? = some header) :
    header.Denoted canon (packet.headerObject chain) :=
  (denoted packet packet.mem_walk_self).2 header present

end Packet.Denoted

end Encapsulation
