import Encapsulation.Proofs.Chain.Mirror
import Encapsulation.Proofs.Packet.Library
import Encapsulation.Proofs.Packet.Position

/-!
# Searches along a chain

A query looks at the layers of a chain one after another and stops at the first that fits. A search
for a kind looks at the layers themselves, a search for the layer around a kind looks at their
payloads, and so does along the chain what the first search does along the payload, one layer
further out. A search by sort looks past the kinds, and finds what the search by kind finds as long
as all layers are of the sorts of the library, whose kinds stand alone.
-/
namespace Encapsulation

/-- Whether an owner stands for the kinds of layers of a sort. Every sort of the library has an
owner of its own, and the owners that callers choose stand for the sorts of layers that callers
define. -/
def LayerSort.Owns : LayerSort → Owner → Prop
  | unknown, .unknown => True
  | ethernet, .ethernet => True
  | llcSnap, .llcSnap => True
  | udp, .udp => True
  | custom, .custom _ => True
  | overriding, .custom _ => True
  | _, _ => False

/-- A sort of the library and another sort are the same if and only if their owners are. -/
theorem LayerSort.eq_iff_of_owns {sort wanted : LayerSort} {owner other : Owner}
    (library : sort.isLibrary = true) (owns : sort.Owns owner) (wants : wanted.Owns other) :
    sort = wanted ↔ other = owner := by
  cases sort with
  | custom | overriding => cases library
  | unknown | ethernet | llcSnap | udp =>
    cases owner <;> cases owns
    cases wanted <;> cases other <;> cases wants <;> simp

/-- A layer of the library is of a kind without a parent, which has the owner of its sort. -/
def Layered.Plain {α : Type} [Layered α] (layer : α) : Prop :=
  (Layered.sort layer).isLibrary = true →
    (Layered.kind layer).parent? = none ∧ (Layered.sort layer).Owns (Layered.kind layer).owner

/-- The layers of packets are plain. -/
theorem Layer.plain (layer : Layer) : Layered.Plain layer := by
  intro library
  cases layer with
  | ethernet header pad => exact ⟨rfl, trivial⟩
  | llcSnap header => exact ⟨rfl, trivial⟩
  | udp header => exact ⟨rfl, trivial⟩
  | custom fields => exact absurd library (not_library_custom fields)

/-- The drafts of builders are plain. -/
theorem Draft.plain (draft : Draft) : Layered.Plain draft := by
  intro library
  cases draft with
  | ethernet draft => exact ⟨rfl, trivial⟩
  | llcSnap header => exact ⟨rfl, trivial⟩
  | udp draft => exact ⟨rfl, trivial⟩
  | custom fields => cases library

namespace Chain

variable {α : Type} {chain layer : Chain α} {property other : Chain α → Bool} {position : Nat}

/-- The payload of the layer at a position is the layer at the next one. -/
theorem bind_payload?_inner? (chain : Chain α) (position : Nat) :
    (chain.inner? position).bind payload? = chain.inner? (position + 1) := by
  induction chain generalizing position with
  | unknown data | bare layer => cases position <;> rfl
  | wrap layer payload ih =>
    cases position with
    | zero => exact payload.inner?_zero.symm
    | succ position => exact ih position

/-- The layers that have another one around them are those of the payload. -/
theorem tail_walk (chain : Chain α) :
    chain.walk.tail = (chain.payload?.map walk).getD [] := by
  cases chain <;> rfl

/-- A search stops at the outermost layer, or goes on along the payload. -/
theorem find?_eq (property : Chain α → Bool) (chain : Chain α) :
    chain.find? property =
      if property chain then some 0
      else (chain.payload?.bind (·.find? property)).map (· + 1) := by
  cases chain with
  | unknown data | bare layer => simp [find?, payload?]
  | wrap layer payload => simp [find?, payload?, List.findIdx?_cons]

/-- A search stops at the first layer that fits. -/
theorem find?_eq_some_iff :
    chain.find? property = some position ↔
      (∃ layer, chain.walk[position]? = some layer ∧ property layer = true) ∧
        ∀ earlier < position, ∀ outer, chain.walk[earlier]? = some outer →
          property outer = false := by
  rw [find?, List.findIdx?_eq_some_iff_getElem]
  constructor
  · intro ⟨within, found, first⟩
    refine ⟨⟨chain.walk[position], List.getElem?_eq_getElem within, found⟩, ?_⟩
    intro earlier before outer known
    obtain ⟨inside, rfl⟩ := List.getElem?_eq_some_iff.mp known
    exact Bool.eq_false_iff.mpr (first earlier before)
  · intro ⟨⟨layer, known, found⟩, first⟩
    obtain ⟨within, rfl⟩ := List.getElem?_eq_some_iff.mp known
    refine ⟨within, found, fun earlier before => ?_⟩
    exact Bool.eq_false_iff.mp (first earlier before _ (List.getElem?_eq_getElem _))

/-- A search finds nothing if and only if no layer fits. -/
theorem find?_eq_none_iff :
    chain.find? property = none ↔ ∀ layer ∈ chain.walk, property layer = false :=
  List.findIdx?_eq_none_iff

/-- Searches for properties that the layers of a chain have alike stop at one position. -/
theorem find?_congr (alike : ∀ layer ∈ chain.walk, property layer = other layer) :
    chain.find? property = chain.find? other := by
  induction chain with
  | unknown data | bare layer =>
    rw [find?_eq property, find?_eq other, alike _ (mem_walk_self _)]
    rfl
  | wrap layer payload ih =>
    have inside := ih fun inner member => alike inner (mem_walk_wrap member)
    rw [find?_eq property, find?_eq other, alike _ (mem_walk_self _)]
    simp only [payload?, Option.bind_some, inside]

/-- A search for a property that some layer has stops there or before. -/
theorem exists_find?_le (known : chain.walk[position]? = some layer)
    (fits : property layer = true) : ∃ found ≤ position, chain.find? property = some found := by
  cases search : chain.find? property with
  | none =>
    have misses := find?_eq_none_iff.mp search layer (List.mem_of_getElem? known)
    exact absurd fits (Bool.eq_false_iff.mp misses)
  | some found =>
    refine ⟨found, ?_, rfl⟩
    by_contra later
    have misses := (find?_eq_some_iff.mp search).2 position (by omega) layer known
    exact Bool.eq_false_iff.mp misses fits

variable [Layered α]

/-- The search for the layer around a kind is the search for the kind along the payload. -/
theorem outerOf?_eq (wanted : Kind) (chain : Chain α) :
    chain.outerOf? wanted = chain.payload?.bind (·.firstOf? wanted) := by
  induction chain with
  | unknown data | bare layer => rfl
  | wrap layer payload ih =>
    have inside : (wrap layer payload).payload? = some payload := rfl
    have first := find?_eq (fun chain : Chain α => wanted.accepts chain.kind) payload
    rw [outerOf?, find?_eq]
    simp only [inside, Option.bind_some]
    rw [firstOf?, first]
    congr 2

/-- What the kind queries tell of a chain, given its layers from the outermost one inwards. -/
structure Searches (chain : Chain α) (layers : List (Chain α)) : Prop where
  /-- A kind is found at the first layer whose kind it accepts. -/
  first : ∀ (wanted : Kind) (position : Nat), chain.firstOf? wanted = some position ↔
    (∃ layer, layers[position]? = some layer ∧ wanted.accepts layer.kind = true) ∧
      ∀ earlier < position, ∀ outer, layers[earlier]? = some outer →
        wanted.accepts outer.kind = false
  /-- A kind is not found if and only if it accepts the kind of no layer. -/
  missing : ∀ wanted : Kind, chain.firstOf? wanted = none ↔
    ∀ layer ∈ layers, wanted.accepts layer.kind = false
  /-- The layer around a kind has the position that the kind has in the payload. -/
  around : ∀ wanted : Kind,
    chain.outerOf? wanted = chain.payload?.bind (·.firstOf? wanted)
  /-- The payload of the layer around a kind is what is found of the kind in the payload. -/
  within : ∀ wanted : Kind,
    ((chain.outerOf? wanted).bind chain.inner?).bind payload? =
      chain.payload?.bind fun payload => (payload.firstOf? wanted).bind payload.inner?
  /-- Where a kind has a layer around it, it is found in the outermost layer or in the one after
  the layer around it. -/
  inward : ∀ (wanted : Kind) (position : Nat), chain.outerOf? wanted = some position →
    chain.firstOf? wanted = some 0 ∨ chain.firstOf? wanted = some (position + 1)
  /-- A kind has no layer around it if and only if it accepts the kind of no layer but the
  outermost one. -/
  alone : ∀ wanted : Kind, chain.outerOf? wanted = none ↔
    ∀ layer ∈ layers.tail, wanted.accepts layer.kind = false
  /-- Where one kind is found, a kind that accepts it is found there or further out, if the two
  kinds, those of the layers and all their ancestors are consistent. -/
  ordered : ∀ (wanted below : Kind) (position : Nat),
    Kind.Consistent ((wanted :: below :: layers.map kind).flatMap Kind.lineage) →
      wanted.accepts below = true → chain.firstOf? below = some position →
        ∃ found ≤ position, chain.firstOf? wanted = some found
  /-- Where all layers are of the library, a sort is found where its kind is. -/
  sorted : (∀ layer ∈ layers, layer.sort.isLibrary = true) →
    ∀ (sort : LayerSort) (wanted : Kind), sort.Owns wanted.owner →
      chain.firstOfSort? sort = chain.firstOf? wanted

variable {wanted : Kind}

/-- A layer of the library is accepted by the kinds of its owner only. -/
theorem sort_eq_iff (plain : ∀ layer : α, Layered.Plain layer) {sort : LayerSort}
    (library : chain.sort.isLibrary = true) (owns : sort.Owns wanted.owner) :
    chain.sort = sort ↔ wanted.accepts chain.kind = true := by
  have alone : chain.kind.parent? = none ∧ chain.sort.Owns chain.kind.owner := by
    cases chain with
    | unknown data => exact ⟨rfl, trivial⟩
    | bare layer | wrap layer payload => exact plain layer library
  rw [Kind.accepts_iff_of_root alone.1, LayerSort.eq_iff_of_owns library alone.2 owns]

/-- Where a kind has a layer around it, it is found in the outermost layer or right inside that
layer. -/
theorem firstOf?_of_outerOf? (found : chain.outerOf? wanted = some position) :
    chain.firstOf? wanted = some 0 ∨ chain.firstOf? wanted = some (position + 1) := by
  rw [outerOf?_eq] at found
  rw [firstOf?, find?_eq]
  split
  · exact .inl rfl
  · have inside : chain.payload?.bind
        (·.find? fun layer => wanted.accepts layer.kind) = some position := found
    rw [inside]
    exact .inr rfl

/-- The kind queries of chains whose layers are plain. -/
theorem searches_walk (plain : ∀ layer : α, Layered.Plain layer) (chain : Chain α) :
    chain.Searches chain.walk where
  first wanted position := find?_eq_some_iff
  missing wanted := find?_eq_none_iff
  around wanted := outerOf?_eq wanted chain
  within wanted := by
    rw [outerOf?_eq, Option.bind_assoc]
    cases inside : chain.payload? with
    | none => rfl
    | some payload =>
      simp only [Option.bind_some, bind_payload?_inner?, inner?_succ, inside]
  inward wanted position := firstOf?_of_outerOf?
  alone wanted := by
    rw [outerOf?_eq, tail_walk]
    cases chain.payload? with
    | none => simp
    | some payload => exact find?_eq_none_iff
  ordered wanted below position consistent accepted found := by
    obtain ⟨⟨layer, known, fits⟩, -⟩ := find?_eq_some_iff.mp found
    have listed : layer.kind ∈ wanted :: below :: chain.walk.map kind :=
      List.mem_cons_of_mem _ (List.mem_cons_of_mem _
        (List.mem_map_of_mem (List.mem_of_getElem? known)))
    have middle : below ∈ wanted :: below :: chain.walk.map kind := by simp
    have onward : wanted.accepts layer.kind = true :=
      consistent.accepts_trans (Kind.closed_lineages _) (Kind.mem_lineages middle)
        (Kind.mem_lineages listed) accepted fits
    exact exists_find?_le known onward
  sorted library sort wanted owns := by
    apply find?_congr
    intro layer member
    rw [Bool.eq_iff_iff, beq_iff_eq]
    exact sort_eq_iff plain (library layer member) owns

end Chain

/-- A walk along a packet meets some layers, and all kind queries on the packet are about these: a
query for a kind finds the first that the kind accepts, a query for the layer around a kind finds
the one whose payload the first query finds along the payload, a query for a kind is never behind
one for a kind that it accepts, and queries by sort agree with those by kind on packets of the
library. The same holds of builders. -/
theorem kind_queries_stop_at_first_layer (packet : Packet) (builder : Builder) :
    (∃ layers, (Cursor.start packet).Meets layers ∧ packet.Searches layers) ∧
      ∃ layers, (Cursor.start builder).Meets layers ∧ builder.Searches layers :=
  ⟨⟨packet.walk, Cursor.meets_start_iff.mpr rfl, Chain.searches_walk Layer.plain packet⟩,
    ⟨builder.walk, Cursor.meets_start_iff.mpr rfl, Chain.searches_walk Draft.plain builder⟩⟩

/-- The kind of tunnels. -/
def tunnelKind : Kind := .root "Tunnel" (.custom "tunnel")

/-- The kind of tunnels that encrypt what they carry. -/
def secureTunnelKind : Kind := .sub "Secure Tunnel" (.custom "secure") tunnelKind

/-- A datagram around an encrypting tunnel around a datagram around a tunnel. -/
def nestedTunnels : Packet :=
  .wrap (.udp ⟨⟨1⟩, ⟨2⟩, 0, 0⟩)
    (.wrap (.custom ⟨secureTunnelKind, none, none, .composed⟩)
      (.wrap (.udp ⟨⟨3⟩, ⟨4⟩, 0, 0⟩)
        (.bare (.custom ⟨tunnelKind, none, none, .composed⟩))))

/-- The encrypting tunnel is found where tunnels are, and so is the layer around either. -/
theorem nested_tunnels_are_found :
    Kind.Consistent ((tunnelKind :: secureTunnelKind :: nestedTunnels.kinds).flatMap
      Kind.lineage) ∧
      tunnelKind.accepts secureTunnelKind = true ∧
      nestedTunnels.firstOf? secureTunnelKind = some 1 ∧
      (∃ found ≤ 1, nestedTunnels.firstOf? tunnelKind = some found) ∧
      nestedTunnels.outerOf? tunnelKind = some 0 := by
  have consistent : Kind.Consistent
      ((tunnelKind :: secureTunnelKind :: nestedTunnels.kinds).flatMap Kind.lineage) := by decide
  obtain ⟨⟨layers, met, searches⟩, -⟩ :=
    kind_queries_stop_at_first_layer nestedTunnels (.unknown [])
  obtain rfl : layers = nestedTunnels.walk := Cursor.meets_start_iff.mp met
  have found : nestedTunnels.firstOf? secureTunnelKind = some 1 := by decide
  have outer := searches.around tunnelKind
  exact ⟨consistent, rfl, found, searches.ordered _ _ 1 consistent rfl found, outer⟩

end Encapsulation
