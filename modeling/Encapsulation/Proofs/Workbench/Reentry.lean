import Encapsulation.Comparison
import Encapsulation.Proofs.Access.Guard
import Encapsulation.Proofs.Workbench.Operation

/-!
# No cell waits for itself

Whatever a bench remembers, and whatever it is asked to do, no cell is asked for while it is being
computed, and computations nest no deeper than a few more than the chain has layers. So every access
ends: it returns, or it fails for a fault of the packet, and then no cell is left behind that is
still being computed.
-/
namespace Encapsulation

/-- An access that is started with nothing being computed asks for no cell that is being computed,
nests to a depth at most, and ends for good whatever is remembered. -/
structure Access.Settles {α : Type} (access : Access α) (depth : Nat) : Prop where
  /-- What it asks for, with all that is asked for in turn, is asked for while it is not being
  computed. -/
  guarded : Memo.Eval.Guarded [] access
  /-- Computations nest in it to the depth at most. -/
  nests : Memo.Eval.Nests depth access
  /-- It returns or fails for a fault, with no cell being computed in the end. -/
  ends : ∀ memory : Memory, access.Ends [] memory
  /-- A fault breaks off at most as many computations as nest in it. -/
  breaks : ∀ (memory after : Memory) fault interrupted,
    access [] memory = .error (.failed fault interrupted) after → interrupted.length ≤ depth

/-- An access that asks within a region to some depth settles. -/
theorem Access.Settles.of_asks {α : Type} {access : Access α} {region : Set Cell} {depth : Nat}
    (asks : access.AsksWithin region depth) : access.Settles depth :=
  ⟨asks.guarded, asks.nests, asks.guarded.ends,
    fun _ _ _ _ failed => asks.nests.length_interrupted failed⟩

namespace Workbench

/-- On no bench does an action fail because a cell was asked for while it was being computed. -/
def NeverReenters {α : Type} (action : Use α) : Prop :=
  ∀ bench cell reached, action bench ≠ .error (.reentered cell) reached

namespace NeverReenters

variable {α γ : Type}

/-- An action that returns on every bench. -/
theorem of_returns {action : Use α} (returns : ∀ bench, ∃ value reached,
    action bench = .ok value reached) : NeverReenters action := by
  intro bench cell reached stopped
  obtain ⟨value, other, returned⟩ := returns bench
  cases returned.symm.trans stopped

/-- A plain value is returned. -/
theorem pure (value : α) : NeverReenters (Pure.pure value : Use α) :=
  of_returns fun bench => ⟨value, bench, rfl⟩

/-- Where there is nothing to do something with, nothing is asked for. -/
theorem absent : NeverReenters (throw .absent : Use α) := by
  intro bench cell reached stopped
  cases stopped

/-- What is done with the bench as it is. -/
theorem get_bind {next : Workbench → Use α} (rest : ∀ bench, NeverReenters (next bench)) :
    NeverReenters (get >>= next) :=
  fun bench => rest bench bench

/-- One action after another. -/
theorem bind {first : Use α} {second : α → Use γ} (head : NeverReenters first)
    (tail : ∀ value, NeverReenters (second value)) : NeverReenters (first >>= second) := by
  intro bench cell reached stopped
  cases outcome : first bench with
  | ok value middle =>
    refine tail value middle cell reached ?_
    simpa only [Bind.bind, EStateM.bind, outcome] using stopped
  | error failure middle =>
    simp only [Bind.bind, EStateM.bind, outcome] at stopped
    cases stopped
    exact head bench cell reached outcome

/-- An access that settles ends in a value or in a fault. -/
theorem access {action : Access α} {depth : Nat} (settles : action.Settles depth) :
    NeverReenters (Workbench.access action) := by
  intro bench cell reached stopped
  obtain ⟨memory, -, ⟨value, returned⟩ | ⟨fault, inner, failed, -⟩⟩ := settles.ends bench.memory
  · rw [access_of_returned returned] at stopped
    cases stopped
  · rw [access_of_failed failed] at stopped
    cases stopped

/-- What is made of the value of an action. -/
theorem map {action : Use α} (never : NeverReenters action) (make : α → γ) :
    NeverReenters (make <$> action) := by
  rw [map_eq_pure_bind]
  exact never.bind fun value => .pure (make value)

end NeverReenters

/-- Locating a packet asks for nothing. -/
theorem locate_neverReenters (chain position : Nat) : NeverReenters (locate chain position) := by
  refine .get_bind fun bench => ?_
  split
  · exact .pure _
  · exact .absent

/-- Locating a header asks for nothing. -/
theorem locateHeader_neverReenters (site : Site) : NeverReenters (locateHeader site) := by
  cases site with
  | layer chain position => exact (locate_neverReenters chain position).bind fun target => .pure _
  | copy serial =>
    refine .get_bind fun bench => ?_
    split
    · exact .pure _
    · exact .absent

/-- The views of a packet settle. -/
theorem read_neverReenters (target : Located) (view : View) : NeverReenters (read target view) :=
  .access (.of_asks (target.packet.read_asks target.chain view))

/-- A comparison of packets settles. -/
theorem equals_neverReenters (left right : Located) : NeverReenters (equals left right) :=
  .access (.of_asks (left.packet.equals_asks left.chain right.chain right.packet))

/-- A comparison of the headers of packets settles. -/
theorem headerEquals?_neverReenters (left right : Located) :
    NeverReenters (headerEquals? left right) :=
  .access (.of_asks (left.packet.headerEquals?_asks left.chain right.chain right.packet))

/-- A build settles. -/
theorem build_neverReenters (builder : Builder) : NeverReenters (build builder) := by
  refine .get_bind fun bench => ?_
  refine .bind (.of_returns fun bench => ⟨(), _, rfl⟩) fun _ => ?_
  refine .bind (.access (.of_asks (builder.build_asks _))) fun packet => ?_
  exact .bind (.of_returns fun bench => ⟨(), _, rfl⟩) fun _ => .pure _

/-- Copying a header asks for nothing. -/
theorem duplicate_neverReenters (object : Object) (header : Header) :
    NeverReenters (duplicate object header) :=
  .of_returns fun bench => ⟨bench.copies.size, _, rfl⟩

/-- No operation on a bench fails because a cell was asked for while it was being computed. -/
theorem perform_neverReenters (operation : Operation) : NeverReenters operation.perform := by
  have header : ∀ (object : Object) (header : Header) (view : View),
      NeverReenters (access (header.read object view)) := fun object header view =>
    .access (.of_asks (header.read_asks object view))
  cases operation with
  | read chain position view =>
    exact (locate_neverReenters chain position).bind fun target =>
      (read_neverReenters target view).bind fun value => .pure _
  | readHeader chain position view =>
    refine (locate_neverReenters chain position).bind fun target => .bind ?_ fun shown => ?_
    · unfold readHeader
      split
      · exact (header _ _ view).map some
      · exact .pure none
    · cases shown <;> exact .pure _
  | readCopy serial view =>
    refine .bind (.get_bind fun bench => ?_) fun value => .pure _
    split
    · exact header _ _ view
    · exact .absent
  | copyHeader chain position =>
    refine (locate_neverReenters chain position).bind fun target => .bind ?_ fun serial => ?_
    · unfold copyHeader
      split
      · exact (duplicate_neverReenters _ _).map some
      · exact .pure none
    · cases serial <;> exact .pure _
  | copyCopy serial =>
    refine .bind (.get_bind fun bench => ?_) fun copy => .pure _
    split
    · exact duplicate_neverReenters _ _
    · exact .absent
  | equals chain position otherChain otherPosition =>
    exact (locate_neverReenters chain position).bind fun left =>
      (locate_neverReenters otherChain otherPosition).bind fun right =>
        (equals_neverReenters left right).bind fun equal => .pure _
  | headersEqual left right =>
    refine (locateHeader_neverReenters left).bind fun first => ?_
    refine (locateHeader_neverReenters right).bind fun second => ?_
    split
    · next object header otherObject other =>
      exact .bind (.access (.of_asks (header.equals_asks object otherObject other)))
        fun equal => .pure _
    · exact .pure _
  | find chain position kind =>
    exact (locate_neverReenters chain position).bind fun target => .pure _
  | findOuter chain position kind =>
    exact (locate_neverReenters chain position).bind fun target => .pure _
  | dump chain position =>
    exact (locate_neverReenters chain position).bind fun target => .get_bind fun bench => .pure _
  | dumpHeader site =>
    refine (locateHeader_neverReenters site).bind fun found => ?_
    cases found with
    | none => exact .pure _
    | some place => exact .get_bind fun bench => .pure _
  | reopen chain position =>
    exact (locate_neverReenters chain position).bind fun target => .pure _
  | build builder => exact (build_neverReenters builder).bind fun chain => .pure _
  | rebuild chain position =>
    exact (locate_neverReenters chain position).bind fun target =>
      (build_neverReenters _).bind fun chain => .pure _

/-- Comparing two packets from both sides settles. -/
theorem compare_neverReenters (left right : Located) : NeverReenters (compare left right) := by
  unfold compare
  refine (equals_neverReenters left right).bind fun forward => ?_
  refine (equals_neverReenters right left).bind fun backward => ?_
  refine (equals_neverReenters left right).bind fun again => ?_
  refine (headerEquals?_neverReenters left right).bind fun headerForward => ?_
  refine (headerEquals?_neverReenters right left).bind fun headerBackward => ?_
  refine (headerEquals?_neverReenters left right).bind fun headerAgain => ?_
  by_cases alike : left.packet.sort = right.packet.sort ∧ left.packet.sort.isLibrary = true
  · simp only [if_pos alike]
    exact (equals_neverReenters left right).bind fun equal =>
      (headerEquals?_neverReenters left right).bind fun headers => .pure _
  · simp only [if_neg alike]
    exact .pure _

/-- Asking two packets for the same view settles. -/
theorem agree_neverReenters (left right : Located) (view : View) [DecidableEq view.Value] :
    NeverReenters (agree left right view) :=
  (read_neverReenters left view).bind fun _ =>
    (read_neverReenters right view).bind fun _ => .pure _

/-- Comparing a packet with the one that its own builder makes settles. -/
theorem rebuild_neverReenters (target : Located) : NeverReenters (rebuild target) := by
  refine (build_neverReenters _).bind fun chain => ?_
  refine (locate_neverReenters chain 0).bind fun copy => ?_
  refine (equals_neverReenters target copy).bind fun forward => ?_
  refine (equals_neverReenters copy target).bind fun reverse => ?_
  refine (agree_neverReenters target copy .bytes).bind fun bytes => ?_
  refine (agree_neverReenters target copy .text).bind fun text => ?_
  refine (agree_neverReenters target copy .hash).bind fun hash => ?_
  exact (read_neverReenters copy .length).bind fun length => .pure _

/-- Every view of a packet or of a header, every comparison and every build asks for cells only
while they are not being computed, nests no deeper than four more than the layers it goes through,
and ends for good whatever is remembered, for layers of the library and for those of a caller alike.
So on no bench does an operation, a comparison from both sides or a rebuild stop because a cell was
asked for while it was being computed. -/
theorem no_cell_waits_for_itself :
    (∀ chain (packet : Packet) view, (packet.read chain view).Settles (packet.depth + 4)) ∧
      (∀ object (header : Header) view, (header.read object view).Settles 4) ∧
      (∀ chain otherChain (packet other : Packet),
        (packet.equals chain otherChain other).Settles (other.depth + 1) ∧
          (packet.headerEquals? chain otherChain other).Settles 1) ∧
      (∀ object otherObject (header other : Header),
        (header.equals object otherObject other).Settles 1) ∧
      (∀ chain (builder : Builder), (builder.build chain).Settles (builder.depth + 1)) ∧
      (∀ operation : Operation, NeverReenters operation.perform) ∧
      ∀ left right : Located, NeverReenters (compare left right) ∧ NeverReenters (rebuild left) :=
  ⟨fun chain packet view => .of_asks (packet.read_asks chain view),
    fun object header view => .of_asks (header.read_asks object view),
    fun chain otherChain packet other =>
      ⟨.of_asks (packet.equals_asks chain otherChain other),
        .of_asks (packet.headerEquals?_asks chain otherChain other)⟩,
    fun object otherObject header other => .of_asks (header.equals_asks object otherObject other),
    fun chain builder => .of_asks (builder.build_asks chain),
    perform_neverReenters,
    fun left right => ⟨compare_neverReenters left right, rebuild_neverReenters left⟩⟩

end Workbench

end Encapsulation
