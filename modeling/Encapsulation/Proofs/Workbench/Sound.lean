import Encapsulation.Proofs.Access.Build
import Encapsulation.Proofs.Access.Equality
import Encapsulation.Proofs.Workbench.Operation

/-!
# Sound workbenches

A bench is sound if every filled cell of its packets, headers and copies holds the meaning of its
view, and nothing is remembered yet under numbers that have not been given out. What an action does
to a sound bench is told by `Workbench.Becomes`: filled cells stay filled, packets and copies stay
as they are, and the new ones are made by builders.
-/
namespace Encapsulation

open Memo (Canon Bank)
open Memo.Eval (Meets)

/-- The number of the chain that an object belongs to; copies belong to none. -/
def Object.chain? : Object → Option Nat
  | .packet chain _ => some chain
  | .header chain _ => some chain
  | .copy _ => none

/-- A reach stays in its chain. -/
theorem reach_subset_chain (chain depth level : Nat) :
    reach chain depth level ⊆ { cell | cell.object.chain? = some chain } := by
  rintro ⟨object, view⟩ member
  cases object with
  | packet number inner => exact congrArg some member.1
  | header number inner => exact congrArg some member.1
  | copy serial => cases member

/-- The objects that a site may stand for: anything in its chain, or the copy. -/
def Site.Covers : Site → Object → Prop
  | .layer chain _, object => object.chain? = some chain
  | .copy serial, object => object = .copy serial

namespace Workbench

variable {bench before middle after : Workbench}

/-- A number of the bench has been given to an object. -/
def Issued (bench : Workbench) : Object → Prop
  | .packet chain _ => chain < bench.chains.size
  | .header chain _ => chain < bench.chains.size
  | .copy serial => serial < bench.copies.size

/-- An object of a chain has been given a number if the chain has. -/
theorem issued_iff_of_chain {object : Object} {chain : Nat} (inside : object.chain? = some chain) :
    bench.Issued object ↔ chain < bench.chains.size := by
  cases object with
  | packet number depth =>
    obtain rfl : number = chain := Option.some.inj inside
    exact Iff.rfl
  | header number depth =>
    obtain rfl : number = chain := Option.some.inj inside
    exact Iff.rfl
  | copy serial => cases inside

/-- The objects of the next chain have not been given a number. -/
theorem not_issued_of_next {object : Object} (inside : object.chain? = some bench.chains.size) :
    ¬ bench.Issued object := by
  rw [issued_iff_of_chain inside]
  exact Nat.lt_irrefl _

/-- The next copy has not been given a number. -/
theorem not_issued_of_next_copy {object : Object} (same : object = .copy bench.copies.size) :
    ¬ bench.Issued object := by
  rw [same]
  exact Nat.lt_irrefl _

/-- A packet is a layer of a chain on a bench. -/
def Holds (bench : Workbench) (target : Located) : Prop :=
  ∃ root : Packet, bench.chains[target.chain]? = some (some root) ∧ target.packet ∈ root.walk

/-- The layer of a depth in a chain on a bench. -/
def packetAt? (bench : Workbench) (chain depth : Nat) : Option Packet :=
  bench.chains[chain]?.join.bind fun root => root.walk.find? fun inner => inner.depth == depth

/-- The header that an object on a bench is: that of a layer, or a copy. -/
def headerAt? (bench : Workbench) : Object → Option Header
  | .packet _ _ => none
  | .header chain depth => (bench.packetAt? chain depth).bind Packet.header?
  | .copy serial => bench.copies[serial]?

/-- What the cells of a bench are to hold: the meanings of the views of its packets and headers. -/
def canon (bench : Workbench) : Canon Cell Cell.Value
  | ⟨.packet chain depth, view⟩ => (bench.packetAt? chain depth).map (·.meaning view)
  | ⟨.header chain depth, view⟩ => (bench.headerAt? (.header chain depth)).map (·.meaning view)
  | ⟨.copy serial, view⟩ => (bench.headerAt? (.copy serial)).map (·.meaning view)

/-- A bench remembers nothing but what is meant, and nothing under numbers not given out. -/
structure Sound (bench : Workbench) : Prop where
  /-- Every filled cell holds the meaning of its view. -/
  coherent : bench.memory.bank.Coherent bench.canon
  /-- The cells of objects to come are empty. -/
  fresh : ∀ cell : Cell, ¬ bench.Issued cell.object → bench.memory.bank.get? cell = none

/-- One bench after another. -/
structure Becomes (region : Set Cell) (before after : Workbench) : Prop where
  /-- Filled cells stay filled, and those outside the region stay as they are. -/
  memory : before.memory.Advances region after.memory
  /-- A chain stays as it is, also where its build failed. -/
  chains : ∀ (number : Nat) (entry : Option Packet),
    before.chains[number]? = some entry → after.chains[number]? = some entry
  /-- A copy stays as it is. -/
  copies : ∀ (serial : Nat) (header : Header),
    before.copies[serial]? = some header → after.copies[serial]? = some header
  /-- A new packet was made by a builder. -/
  made : ∀ (number : Nat) (packet : Packet), after.chains[number]? = some (some packet) →
    before.chains[number]? = some (some packet) ∨
      ∃ builder : Builder, builder.Buildable ∧ builder.plainBuild = packet

namespace Becomes

variable {region larger : Set Cell}

/-- A bench that only remembers more comes after the first one. -/
theorem of_memory {memory : Memory} (advance : bench.memory.Advances region memory) :
    bench.Becomes region { bench with memory } :=
  ⟨advance, fun _ _ known => known, fun _ _ known => known, fun _ _ known => .inl known⟩

/-- Every bench comes after itself. -/
theorem refl (region : Set Cell) (bench : Workbench) : bench.Becomes region bench :=
  of_memory (.refl region bench.memory)

/-- The order of benches is transitive. -/
theorem trans (first : before.Becomes region middle) (second : middle.Becomes region after) :
    before.Becomes region after where
  memory := first.memory.trans second.memory
  chains number entry known := second.chains number entry (first.chains number entry known)
  copies serial header known := second.copies serial header (first.copies serial header known)
  made number packet known := by
    rcases second.made number packet known with known | built
    · exact first.made number packet known
    · exact .inr built

/-- A region may be taken larger. -/
theorem mono (within : region ⊆ larger) (change : before.Becomes region after) :
    before.Becomes larger after :=
  ⟨change.memory.mono within, change.chains, change.copies, change.made⟩

/-- Numbers that have been given out stay so. -/
theorem issued (change : before.Becomes region after) {object : Object}
    (given : before.Issued object) : after.Issued object := by
  have chains : ∀ number, number < before.chains.size → number < after.chains.size := by
    intro number given
    exact (Array.getElem?_eq_some_iff.mp
      (change.chains number _ (Array.getElem?_eq_getElem given))).1
  have copies : ∀ serial, serial < before.copies.size → serial < after.copies.size := by
    intro serial given
    exact (Array.getElem?_eq_some_iff.mp
      (change.copies serial _ (Array.getElem?_eq_getElem given))).1
  cases object with
  | packet chain depth => exact chains chain given
  | header chain depth => exact chains chain given
  | copy serial => exact copies serial given

/-- A packet that is on a bench stays there. -/
theorem holds (change : before.Becomes region after) {target : Located}
    (held : before.Holds target) : after.Holds target := by
  obtain ⟨root, known, member⟩ := held
  exact ⟨root, change.chains target.chain (some root) known, member⟩

end Becomes

/-- A layer inside a packet on a bench is on the bench. -/
theorem Holds.inner {target : Located} {inner : Packet} (held : bench.Holds target)
    (member : inner ∈ target.packet.walk) : bench.Holds ⟨target.chain, inner⟩ := by
  obtain ⟨root, known, outer⟩ := held
  exact ⟨root, known, Chain.mem_walk_trans outer member⟩

/-- The layer of a chain on a bench is found by its depth. -/
theorem Holds.packetAt? {target : Located} (held : bench.Holds target) :
    bench.packetAt? target.chain target.packet.depth = some target.packet := by
  obtain ⟨root, known, member⟩ := held
  have found : root.walk.find? (fun inner => inner.depth == target.packet.depth) =
      some target.packet := by
    cases content : root.walk.find? (fun inner => inner.depth == target.packet.depth) with
    | none =>
      have missing := List.find?_eq_none.mp content target.packet member
      simp at missing
    | some inner =>
      have depths : inner.depth = target.packet.depth := by
        simpa using List.find?_some content
      rw [Chain.eq_of_mem_walk (List.mem_of_find?_eq_some content) member depths]
  rw [Workbench.packetAt?, known]
  exact found

/-- The objects in the chain of a packet on a bench have been given a number. -/
theorem Holds.issued {target : Located} (held : bench.Holds target) {object : Object}
    (inside : object.chain? = some target.chain) : bench.Issued object := by
  obtain ⟨root, known, -⟩ := held
  rw [issued_iff_of_chain inside]
  exact (Array.getElem?_eq_some_iff.mp known).1

/-- The header of a packet on a bench is found by its object. -/
theorem Holds.headerAt? {target : Located} (held : bench.Holds target) :
    bench.headerAt? (target.packet.headerObject target.chain) = target.packet.header? := by
  rw [Packet.headerObject, Workbench.headerAt?, held.packetAt?, Option.bind_some]

/-- The canon of a bench lays down the views of every header on it. -/
theorem denoted_of_headerAt? {object : Object} {header : Header}
    (found : bench.headerAt? object = some header) : header.Denoted bench.canon object := by
  intro view
  cases object with
  | packet chain depth => cases found
  | header chain depth => simp only [canon, found, Option.map_some]
  | copy serial => simp only [canon, found, Option.map_some]

/-- A view of a header on a bench always returns its meaning. -/
theorem meets_of_headerAt? {object : Object} {header : Header}
    (found : bench.headerAt? object = some header) (view : View) :
    Meets bench.canon (header.read object view)
      ⟨object.cells 4, fun _ => True, fun _ _ => True, header.meaning view⟩ :=
  header.read_meets (denoted_of_headerAt? found) view

/-- A comparison of two headers on a bench always returns what their fields say. -/
theorem equals_meets_of_headerAt? {object otherObject : Object} {header other : Header}
    (found : bench.headerAt? object = some header)
    (otherFound : bench.headerAt? otherObject = some other) :
    Meets bench.canon (header.equals object otherObject other)
      ⟨object.cells 1 ∪ otherObject.cells 1, fun _ => True, fun _ _ => True,
        header.plainEquals other⟩ := by
  refine Header.equals_meets (denoted_of_headerAt? found) (denoted_of_headerAt? otherFound)
    subset_rfl fun same => ?_
  exact Option.some.inj (found.symm.trans (same ▸ otherFound))

/-- The canon of a bench lays down the views of every packet on it. -/
theorem Holds.denoted {target : Located} (held : bench.Holds target) :
    target.packet.Denoted bench.canon target.chain := by
  intro inner member
  have inside := held.inner member
  have found := inside.packetAt?
  refine ⟨fun view => ?_, fun header present => ?_⟩
  · simp only [Packet.object, canon, found, Option.map_some]
  · exact denoted_of_headerAt? (inside.headerAt?.trans present)

/-- Two packets on a bench under one chain number lie in one packet. -/
theorem Holds.kin {left right : Located} (held : bench.Holds left) (otherHeld : bench.Holds right) :
    Packet.Kin left.chain right.chain left.packet right.packet := by
  intro same
  obtain ⟨root, known, member⟩ := held
  obtain ⟨other, otherKnown, otherMember⟩ := otherHeld
  rw [← same, known] at otherKnown
  obtain rfl : root = other := Option.some.inj (Option.some.inj otherKnown)
  exact ⟨root, member, otherMember⟩

/-- The canon of a bench lays down nothing under numbers not given out. -/
theorem issued_of_canon {cell : Cell} {value : cell.Value} (laid : bench.canon cell = some value) :
    bench.Issued cell.object := by
  have issued : ∀ {chain depth : Nat} {packet : Packet},
      bench.packetAt? chain depth = some packet → chain < bench.chains.size := by
    intro chain depth packet found
    by_contra missing
    rw [packetAt?, Array.getElem?_eq_none (Nat.le_of_not_lt missing)] at found
    cases found
  obtain ⟨object, view⟩ := cell
  cases object with
  | packet chain depth =>
    obtain ⟨packet, found, -⟩ := Option.map_eq_some_iff.mp laid
    exact issued found
  | header chain depth =>
    obtain ⟨header, found, -⟩ := Option.map_eq_some_iff.mp laid
    obtain ⟨packet, found, -⟩ := Option.bind_eq_some_iff.mp found
    exact issued found
  | copy serial =>
    obtain ⟨header, found, -⟩ := Option.map_eq_some_iff.mp laid
    exact (Array.getElem?_eq_some_iff.mp found).1

/-- A header on a bench is an object whose number has been given out. -/
theorem issued_of_headerAt? {object : Object} {header : Header}
    (found : bench.headerAt? object = some header) : bench.Issued object :=
  issued_of_canon (denoted_of_headerAt? found .length)

/-- The cells of two headers on a bench are those of objects whose numbers have been given out. -/
theorem issued_of_mem_cells {object otherObject : Object} {header other : Header}
    (found : bench.headerAt? object = some header)
    (otherFound : bench.headerAt? otherObject = some other) {level : Nat} :
    ∀ cell ∈ object.cells level ∪ otherObject.cells level, bench.Issued cell.object := by
  rintro cell (inside | inside)
  · exact inside.1 ▸ issued_of_headerAt? found
  · exact inside.1 ▸ issued_of_headerAt? otherFound

end Workbench

end Encapsulation
