import Encapsulation.Proofs.Bytes.Number
import Encapsulation.Proofs.Packet.Composed
import Mathlib.Algebra.GroupWithZero.Nat

/-!
# Where layers lie

In the bytes of a packet whose layers are composed of their parts, a layer lies behind the headers
of the layers outside it, and what follows it is the pads of the frames outside it, the innermost of
them first. So what a layer has at some place of its own bytes is found in the bytes of the whole
packet as far behind the start of the layer.
-/
namespace Encapsulation

namespace Chain

variable {α : Type} {chain inner outer : Chain α} {position near far : Nat}

/-- The outermost layer of a chain is the chain. -/
theorem inner?_zero (chain : Chain α) : chain.inner? 0 = some chain := by
  cases chain <;> rfl

/-- The layers inside the outermost one are those of the payload. -/
theorem inner?_succ (chain : Chain α) (position : Nat) :
    chain.inner? (position + 1) = chain.payload?.bind (·.inner? position) := by
  cases chain <;> rfl

/-- A chain without an outermost layer is raw data. -/
theorem eq_unknown_of_layer? (none : chain.layer? = none) : ∃ data, chain = unknown data := by
  cases chain with
  | unknown data => exact ⟨data, rfl⟩
  | bare layer => cases none
  | wrap layer payload => cases none

/-- A layer has as many layers inwards as are left from its position. -/
theorem depth_of_inner? (found : chain.inner? position = some inner) :
    inner.depth + position = chain.depth := by
  induction chain generalizing position with
  | unknown data | bare layer =>
    cases position with
    | zero =>
      obtain rfl := Option.some.inj found
      rfl
    | succ position => cases found
  | wrap layer payload ih =>
    cases position with
    | zero =>
      obtain rfl := Option.some.inj found
      rfl
    | succ position => exact congrArg (· + 1) (ih found)

/-- A layer further inwards than another one is inside the payload of that one. -/
theorem mem_walk_of_lt (found : chain.inner? near = some outer)
    (deeper : chain.inner? far = some inner) (lt : near < far) :
    ∃ layer payload, outer = wrap layer payload ∧ inner ∈ payload.walk := by
  induction chain generalizing near far with
  | unknown data | bare layer =>
    cases far with
    | zero => exact absurd lt (Nat.not_lt_zero near)
    | succ far => cases deeper
  | wrap layer payload ih =>
    cases far with
    | zero => exact absurd lt (Nat.not_lt_zero near)
    | succ far =>
      cases near with
      | zero =>
        obtain rfl := Option.some.inj found
        exact ⟨layer, payload, rfl, List.mem_of_getElem? deeper⟩
      | succ near => exact ih found deeper (Nat.lt_of_succ_lt_succ lt)

end Chain

namespace Packet

/-- The number of bytes before a layer: the headers of the layers outside it. -/
def offset (packet : Packet) (position : Nat) : Nat :=
  ((packet.walk.take position).map fun outer =>
    (header? outer).elim 0 Header.size).sum

/-- The pads of the layers outside a layer, the innermost of them first. -/
def enclosingPads (packet : Packet) (position : Nat) : Bytes :=
  ((packet.walk.take position).reverse.map fun outer => (pad? outer).getD []).flatten

variable {packet inner : Packet} {position : Nat}

/-- One layer more outside puts its header in front. -/
theorem offset_wrap_succ (layer : Layer) (payload : Packet) (position : Nat) :
    offset (.wrap layer payload) (position + 1) = layer.headerSize + payload.offset position := by
  have size : (header? (.wrap layer payload)).elim 0 Header.size = layer.headerSize := by
    show layer.header?.elim 0 Header.size = layer.headerSize
    unfold Layer.headerSize
    cases layer.header? <;> rfl
  rw [offset, Chain.walk_wrap, List.take_succ_cons, List.map_cons, List.sum_cons, size, offset]

/-- One layer more outside puts its pad at the end. -/
theorem enclosingPads_wrap_succ (layer : Layer) (payload : Packet) (position : Nat) :
    enclosingPads (.wrap layer payload) (position + 1) =
      payload.enclosingPads position ++ layer.pad := by
  have pad : (pad? (.wrap layer payload)).getD [] = layer.pad := by
    cases layer <;> rfl
  rw [enclosingPads, Chain.walk_wrap, List.take_succ_cons, List.reverse_cons, List.map_append,
    List.flatten_append, enclosingPads, List.map_singleton, pad, List.flatten_singleton]

/-- The bytes of a composed packet are what lies before a layer, the bytes of the layer, and the
pads around it. -/
theorem Composed.plainBytes_split (composed : packet.Composed)
    (found : packet.inner? position = some inner) :
    ∃ front : Bytes, front.length = packet.offset position ∧
      packet.plainBytes = front ++ inner.plainBytes ++ packet.enclosingPads position := by
  -- One step further in, the front grows by a header and the pads by the pad of the same layer.
  induction position generalizing packet with
  | zero =>
    obtain rfl : packet = inner := Option.some.inj (packet.inner?_zero.symm.trans found)
    have pads : packet.enclosingPads 0 = [] := rfl
    exact ⟨[], rfl, by rw [pads, List.nil_append, List.append_nil]⟩
  | succ position ih =>
    cases packet with
    | unknown data => cases found
    | bare layer => cases found
    | wrap layer payload =>
      obtain ⟨front, size, split⟩ := ih composed.2 found
      refine ⟨layer.headerBytes ++ front, ?_, ?_⟩
      · rw [List.length_append, size, layer.length_headerBytes, offset_wrap_succ]
      · rw [plainBytes, composed.1.plainBytes_eq, split, enclosingPads_wrap_succ]
        simp only [List.append_assoc]

end Packet

end Encapsulation
