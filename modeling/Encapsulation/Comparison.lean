import Encapsulation.Workbench

/-!
# Comparing packets

Two packets are compared from both sides, and a packet is compared with the one that its own
builder makes.
-/
namespace Encapsulation

/-- Two packets asked about each other. -/
structure Comparison where
  /-- Whether the first equals the second. -/
  forward : Bool
  /-- Whether the second equals the first. -/
  backward : Bool
  /-- Whether the first equals the second, asked again. -/
  again : Bool
  /-- The same three answers for the headers, if both packets have one. -/
  headers : Option (Bool × Bool × Bool)
  /-- Whether two layers of one sort of the library are equal, and whether their headers are. -/
  concrete : Option (Bool × Option Bool)

/-- What a packet and the one that its builder makes agree on. -/
structure Rebuilt where
  /-- Whether the packet equals the new one. -/
  equals : Bool
  /-- Whether the new one equals the packet. -/
  reverse : Bool
  /-- Whether their bytes agree. -/
  bytes : Bool
  /-- Whether their texts agree. -/
  text : Bool
  /-- Whether their hashes agree. -/
  hash : Bool
  /-- The length of the new one. -/
  length : Nat

namespace Workbench

/-- Compare two packets from both sides. -/
def compare (left right : Located) : Use Comparison := do
  let forward ← equals left right
  let backward ← equals right left
  let again ← equals left right
  let headerForward ← headerEquals? left right
  let headerBackward ← headerEquals? right left
  let headerAgain ← headerEquals? left right
  let headers :=
    match headerForward, headerBackward, headerAgain with
    | some forward, some backward, some again => some (forward, backward, again)
    | _, _, _ => none
  let concrete ←
    if left.packet.sort = right.packet.sort ∧ left.packet.sort.isLibrary = true then
      pure (some (← equals left right, ← headerEquals? left right))
    else
      pure none
  return ⟨forward, backward, again, headers, concrete⟩

/-- Whether a view of two packets is the same; the first packet is asked first. -/
def agree (left right : Located) (view : View) [DecidableEq view.Value] : Use Bool := do
  let first ← read left view
  let second ← read right view
  return first = second

/-- Build a packet anew from its own builder and compare the two. -/
def rebuild (target : Located) : Use Rebuilt := do
  let copy ← locate (← build target.packet.reopen) 0
  let forward ← equals target copy
  let reverse ← equals copy target
  let bytes ← agree target copy .bytes
  let text ← agree target copy .text
  let hash ← agree target copy .hash
  let length ← read copy .length
  return ⟨forward, reverse, bytes, text, hash, length⟩

end Workbench

end Encapsulation
