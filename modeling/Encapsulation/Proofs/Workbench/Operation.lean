import Encapsulation.Dump
import Encapsulation.Workbench

/-!
# Operations on workbenches

Everything that a caller can ask of a workbench is an operation, which names packets by chain number
and position and copies of headers by serial number. A run is a list of operations, one after
another; an operation that fails leaves the bench in the state that was reached, and the run goes on
from there.
-/
namespace Encapsulation

/-- Where a header stands on a bench. -/
inductive Site where
  /-- The header of a layer, named by chain and position. -/
  | layer (chain position : Nat)
  /-- A copy of a header. -/
  | copy (serial : Nat)

/-- What a caller can ask of a bench. -/
inductive Operation where
  /-- A view of a packet. -/
  | read (chain position : Nat) (view : View)
  /-- A view of the header of a packet. -/
  | readHeader (chain position : Nat) (view : View)
  /-- A view of a copy of a header. -/
  | readCopy (serial : Nat) (view : View)
  /-- Copy the header of a packet. -/
  | copyHeader (chain position : Nat)
  /-- Copy a copy of a header. -/
  | copyCopy (serial : Nat)
  /-- Compare two packets. -/
  | equals (chain position otherChain otherPosition : Nat)
  /-- Compare two headers. -/
  | headersEqual (left right : Site)
  /-- Look for the first layer of a kind. -/
  | find (chain position : Nat) (kind : Kind)
  /-- Look for the first layer around a kind. -/
  | findOuter (chain position : Nat) (kind : Kind)
  /-- Show how a packet is built. -/
  | dump (chain position : Nat)
  /-- Show how a header is built. -/
  | dumpHeader (site : Site)
  /-- Take the builder that a packet gives back. -/
  | reopen (chain position : Nat)
  /-- Build a packet. -/
  | build (builder : Builder)
  /-- Build a packet out of the builder that another one gives back. -/
  | rebuild (chain position : Nat)

/-- What a bench answers. -/
inductive Answer where
  /-- A view was shown. -/
  | shown (view : View) (value : view.Value)
  /-- There is no header to do it with. -/
  | headless
  /-- Whether the two are equal. -/
  | verdict (equal : Bool)
  /-- The position that was found. -/
  | found (position : Option Nat)
  /-- How something is built. -/
  | dumped (text : String)
  /-- The serial number of a copy. -/
  | copied (serial : Nat)
  /-- A builder. -/
  | reopened (builder : Builder)
  /-- The chain number of a packet. -/
  | built (chain : Nat)

namespace Workbench

/-- The object and the header at a site, if there is a header. -/
def locateHeader : Site → Use (Option (Object × Header))
  | .layer chain position => do
    let target ← locate chain position
    return target.packet.header?.map fun header =>
      (target.packet.headerObject target.chain, header)
  | .copy serial => do
    match (← get).copies[serial]? with
    | some header => return some (.copy serial, header)
    | none => throw .absent

/-- Whether one of two headers counts as equal to the other. -/
def headersEqual (left right : Site) : Use Answer := do
  let first ← locateHeader left
  let second ← locateHeader right
  match first, second with
  | some (object, header), some (otherObject, other) =>
    return .verdict (← access (header.equals object otherObject other))
  | _, _ => return .headless

/-- How the header at a site is built. -/
def dumpHeader (site : Site) : Use Answer := do
  match ← locateHeader site with
  | some (object, header) => return .dumped (header.dump (← get).memory object)
  | none => return .headless

end Workbench

namespace Operation

open Workbench (locate)

/-- Carry out an operation on a bench. -/
def perform : Operation → Use Answer
  | read chain position view => do
    return .shown view (← Workbench.read (← locate chain position) view)
  | readHeader chain position view => do
    match ← Workbench.readHeader (← locate chain position) view with
    | some value => return .shown view value
    | none => return .headless
  | readCopy serial view => do
    return .shown view (← Workbench.readCopy serial view)
  | copyHeader chain position => do
    match ← Workbench.copyHeader (← locate chain position) with
    | some serial => return .copied serial
    | none => return .headless
  | copyCopy serial => do
    return .copied (← Workbench.copyCopy serial)
  | equals chain position otherChain otherPosition => do
    let left ← locate chain position
    let right ← locate otherChain otherPosition
    return .verdict (← Workbench.equals left right)
  | headersEqual left right => Workbench.headersEqual left right
  | find chain position kind => do
    return .found ((← locate chain position).packet.firstOf? kind)
  | findOuter chain position kind => do
    return .found ((← locate chain position).packet.outerOf? kind)
  | dump chain position => do
    let target ← locate chain position
    return .dumped (target.packet.dump (← get).memory target.chain)
  | dumpHeader site => Workbench.dumpHeader site
  | reopen chain position => do
    return .reopened (← locate chain position).packet.reopen
  | build builder => do
    return .built (← Workbench.build builder)
  | rebuild chain position => do
    return .built (← Workbench.build (← locate chain position).packet.reopen)

end Operation

namespace Workbench

/-- The bench that an action leaves behind, whether it returns or fails. -/
def after {α : Type} (action : Use α) (bench : Workbench) : Workbench :=
  match action bench with
  | .ok _ reached => reached
  | .error _ reached => reached

/-- The bench after a list of operations. -/
def run (bench : Workbench) (operations : List Operation) : Workbench :=
  operations.foldl (fun reached operation => reached.after operation.perform) bench

variable {α γ : Type} {bench : Workbench} {first : Use α} {second : α → Use γ}

/-- After an action that returns, a second one goes on with its value. -/
theorem after_bind_of_ok {value : α} {reached : Workbench}
    (returned : first bench = .ok value reached) :
    bench.after (first >>= second) = reached.after (second value) := by
  simp only [after, Bind.bind, EStateM.bind, returned]

/-- After an action that fails, a second one does nothing. -/
theorem after_bind_of_error {failure : Failure} {reached : Workbench}
    (failed : first bench = .error failure reached) :
    bench.after (first >>= second) = reached := by
  simp only [after, Bind.bind, EStateM.bind, failed]

/-- A second action that leaves every bench as it is adds nothing to the first one. -/
theorem after_bind_of_idle (idle : ∀ value reached, after (second value) reached = reached) :
    bench.after (first >>= second) = bench.after first := by
  cases outcome : first bench with
  | ok value reached =>
    rw [after_bind_of_ok outcome, idle, after, outcome]
  | error failure reached =>
    rw [after_bind_of_error outcome, after, outcome]

/-- What is made of the value of an action adds nothing to it. -/
theorem after_map (value : α → γ) : bench.after (value <$> first) = bench.after first := by
  rw [map_eq_pure_bind, after_bind_of_idle fun _ _ => rfl]

/-- An action that asks for the bench goes on with the bench as it is. -/
theorem get_bind_apply (next : Workbench → Use α) (bench : Workbench) :
    (get >>= next) bench = next bench bench := rfl

/-- An action that asks for the bench does what it does with the bench as it is. -/
theorem after_get_bind (next : Workbench → Use α) (bench : Workbench) :
    bench.after (get >>= next) = bench.after (next bench) := rfl

/-- An action that changes the bench goes on with the changed one. -/
theorem modify_bind_apply (change : Workbench → Workbench) (next : Unit → Use α)
    (bench : Workbench) : (modify change >>= next) bench = next () (change bench) := rfl

/-- An access that returns changes what is remembered and nothing else. -/
theorem access_of_returned {action : Access α} {value : α} {memory : Memory}
    (returned : action [] bench.memory = .ok value memory) :
    access action bench = .ok value { bench with memory } := by
  simp only [access, Memo.Eval.perform, returned]

/-- An access to a bench that returned has returned by itself, and left its memory behind. -/
theorem access_eq_ok {action : Access α} {value : α} {reached : Workbench}
    (returned : access action bench = .ok value reached) :
    action [] bench.memory = .ok value reached.memory := by
  simp only [access, Memo.Eval.perform] at returned
  cases outcome : action [] bench.memory with
  | ok answer memory =>
    simp only [outcome] at returned
    obtain ⟨rfl, rfl⟩ := EStateM.Result.ok.inj returned
    rfl
  | error halt memory =>
    simp only [outcome] at returned
    cases returned

/-- An access that fails changes what is remembered and nothing else, and its fault is reported. -/
theorem access_of_failed {action : Access α} {fault : Fault} {interrupted : List Cell}
    {memory : Memory} (failed : action [] bench.memory = .error (.failed fault interrupted) memory) :
    access action bench = .error (.faulted fault) { bench with memory } := by
  simp only [access, Memo.Eval.perform, failed, Failure.ofHalt]

end Workbench

end Encapsulation
