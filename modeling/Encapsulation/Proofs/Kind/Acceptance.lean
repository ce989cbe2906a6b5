import Encapsulation.Proofs.Kind.Order
import Mathlib.Logic.Relation

/-!
# Acceptance as an order

A kind accepts those kinds that have its owner on the way up through their parents, whatever any of
them is called. In a family of kinds this is an order up to identity: the owners of a kind end with
those of each kind that accepts it, so the kinds that accept one kind are in line, from the kind
itself up to its topmost ancestor, and no kind accepts one that is further up.
-/
namespace Encapsulation.Kind

open Relation (ReflTransGen TransGen)

/-- The second kind is the parent of the first one. -/
def HasParent (kind parent : Kind) : Prop := kind.parent? = some parent

/-- The lineage of a kind is the kind and what is reached from it by going up to the parent. -/
theorem mem_lineage_iff {kind ancestor : Kind} :
    ancestor ∈ kind.lineage ↔ ReflTransGen HasParent kind ancestor := by
  constructor
  · intro above
    induction kind with
    | root name owner =>
      rw [lineage, List.mem_singleton] at above
      exact above ▸ .refl
    | sub name owner parent ih =>
      rw [lineage, List.mem_cons] at above
      rcases above with rfl | above
      · exact .refl
      · exact .head rfl (ih above)
  · intro upward
    induction upward with
    | refl => exact kind.mem_lineage_self
    | tail _ up ih => exact (lineage_suffix ih).subset (mem_lineage_of_parent up)

/-- The lineage of a parent is that of the kind without the kind itself. -/
theorem length_lineage_of_parent {kind parent : Kind} (up : kind.HasParent parent) :
    kind.lineage.length = parent.lineage.length + 1 := by
  cases kind with
  | root name owner => cases up
  | sub name owner found =>
    obtain rfl := Option.some.inj up
    rfl

/-- A strict ancestor has a shorter lineage. -/
theorem length_lineage_lt {kind ancestor : Kind} (above : TransGen HasParent kind ancestor) :
    ancestor.lineage.length < kind.lineage.length := by
  induction above with
  | single up =>
    have lengths := length_lineage_of_parent up
    omega
  | tail _ up ih =>
    have lengths := length_lineage_of_parent up
    omega

/-- The kind with other names for itself and its ancestors. -/
def rename (naming : Kind → String) : Kind → Kind
  | root name owner => root (naming (root name owner)) owner
  | sub name owner parent => sub (naming (sub name owner parent)) owner (parent.rename naming)

/-- Other names leave the owner as it is. -/
@[simp]
theorem owner_rename (naming : Kind → String) (kind : Kind) :
    (kind.rename naming).owner = kind.owner := by
  cases kind <;> rfl

/-- Other names leave the owners as they are. -/
@[simp]
theorem owners_rename (naming : Kind → String) (kind : Kind) :
    (kind.rename naming).owners = kind.owners := by
  induction kind with
  | root name owner => rfl
  | sub name owner parent ih => exact congrArg (List.cons owner) ih

/-- What acceptance is like among some kinds: an order up to identity, in which the kinds that
accept one kind are in line. -/
structure Orders (kinds : Set Kind) : Prop where
  /-- A kind accepts what is accepted by a kind that it accepts. -/
  trans : ∀ top ∈ kinds, ∀ middle ∈ kinds, ∀ bottom ∈ kinds,
    top.accepts middle = true → middle.accepts bottom = true → top.accepts bottom = true
  /-- Kinds of one identity are accepted by the same kinds. -/
  congr : ∀ kind ∈ kinds, ∀ left ∈ kinds, ∀ right ∈ kinds,
    left.same right = true → kind.accepts left = kind.accepts right
  /-- Kinds that accept each other are of one identity. -/
  antisymm : ∀ left ∈ kinds, ∀ right ∈ kinds,
    left.accepts right = true → right.accepts left = true → left.same right = true
  /-- A kind accepts none of its strict ancestors, and is of the identity of none. -/
  strict : ∀ kind ∈ kinds, ∀ ancestor, TransGen HasParent kind ancestor →
    kind.accepts ancestor = false ∧ kind.same ancestor = false
  /-- Of two kinds that accept a third one, one accepts the other. -/
  linear : ∀ bottom ∈ kinds, ∀ left ∈ kinds, ∀ right ∈ kinds,
    left.accepts bottom = true → right.accepts bottom = true →
      left.accepts right = true ∨ right.accepts left = true

namespace Family

variable {kinds : Set Kind} {kind other : Kind}

/-- In a family, kinds of one identity are accepted by the same kinds. -/
theorem accepts_congr (family : Family kinds) {left right : Kind} (member : left ∈ kinds)
    (otherMember : right ∈ kinds) (same : left.owner = right.owner) :
    kind.accepts left = kind.accepts right := by
  rw [Bool.eq_iff_iff, accepts_iff, accepts_iff, family.owners_eq member otherMember same]

/-- In a family, a kind accepts only kinds with lineages no shorter than its own, and only kinds of
its own owner with a lineage of the same length. -/
theorem length_le_of_accepts (family : Family kinds) (member : kind ∈ kinds)
    (otherMember : other ∈ kinds) (accepted : kind.accepts other = true) :
    kind.lineage.length ≤ other.lineage.length ∧
      (other.lineage.length ≤ kind.lineage.length → kind.owner = other.owner) := by
  have ending := (family.accepts_iff_suffix member otherMember).mp accepted
  have lengths := ending.length_le
  simp only [owners, List.length_map] at lengths
  refine ⟨lengths, fun least => ?_⟩
  have equal : kind.owners = other.owners := by
    apply ending.eq_of_length_le
    simpa only [owners, List.length_map] using least
  cases kind <;> cases other <;> exact (List.cons.inj equal).1

/-- Acceptance is an order in every family. -/
theorem orders (family : Family kinds) : Orders kinds where
  trans top _ middle member bottom otherMember := family.accepts_trans member otherMember
  congr kind _ left member right otherMember same :=
    family.accepts_congr member otherMember (beq_iff_eq.mp same)
  antisymm left member right otherMember forward backward := by
    have shorter := (family.length_le_of_accepts otherMember member backward).1
    exact beq_iff_eq.mpr ((family.length_le_of_accepts member otherMember forward).2 shorter)
  strict kind member ancestor above := by
    have inFamily := family.mem_of_lineage member ancestor
      (mem_lineage_iff.mpr above.to_reflTransGen)
    have rejected : kind.accepts ancestor = false := Bool.eq_false_iff.mpr fun accepted =>
      Nat.not_le_of_lt (length_lineage_lt above)
        (family.length_le_of_accepts member inFamily accepted).1
    refine ⟨rejected, Bool.eq_false_iff.mpr fun same => ?_⟩
    rw [← family.accepts_congr member inFamily (beq_iff_eq.mp same), accepts_self] at rejected
    cases rejected
  linear bottom member left leftMember right rightMember first second := by
    rw [family.accepts_iff_suffix leftMember member] at first
    rw [family.accepts_iff_suffix rightMember member] at second
    rw [family.accepts_iff_suffix leftMember rightMember,
      family.accepts_iff_suffix rightMember leftMember]
    exact List.suffix_or_suffix_of_suffix first second

end Family

/-- A kind accepts the kinds that reach its owner by going up from parent to parent. Names do not
matter to it, it accepts itself, and it accepts the same kinds as every kind of its identity. In a
family of kinds, acceptance is an order up to identity, in which the kinds that accept one kind are
in line. -/
theorem acceptance_follows_ancestry :
    (∀ kind other : Kind, kind.accepts other = true ↔
      ∃ ancestor, ReflTransGen HasParent other ancestor ∧ kind.owner = ancestor.owner) ∧
    (∀ (kind other : Kind) (naming otherNaming : Kind → String),
      (kind.rename naming).accepts (other.rename otherNaming) = kind.accepts other) ∧
    (∀ kind : Kind, kind.accepts kind = true) ∧
    (∀ kind twin other : Kind, kind.same twin = true → kind.accepts other = twin.accepts other) ∧
    ∀ kinds : Set Kind, Family kinds → Orders kinds := by
  refine ⟨fun kind other => ?_, fun kind other naming otherNaming => ?_, accepts_self,
    fun kind twin other same => ?_, fun kinds family => family.orders⟩
  · rw [accepts_iff, owners, List.mem_map]
    constructor
    · rintro ⟨ancestor, above, same⟩
      exact ⟨ancestor, mem_lineage_iff.mp above, same.symm⟩
    · rintro ⟨ancestor, upward, same⟩
      exact ⟨ancestor, mem_lineage_iff.mpr upward, same.symm⟩
  · rw [Bool.eq_iff_iff, accepts_iff, accepts_iff, owner_rename, owners_rename]
  · rw [Bool.eq_iff_iff, accepts_iff, accepts_iff, beq_iff_eq.mp same]

/-- The kind of tunnels. -/
def tunnel : Kind := root "Tunnel" (.custom "tunnel")

/-- Tunnels that encrypt, under a kind of tunnels of another name. -/
def secureTunnel : Kind :=
  sub "Secure Tunnel" (.custom "secure") (root "Overlay" (.custom "tunnel"))

/-- Tunnels in encrypting tunnels. -/
def nestedTunnel : Kind := sub "Nested Tunnel" (.custom "nested") secureTunnel

/-- The tunnels above nested tunnels are in line, and no nested tunnel accepts any of them. -/
theorem nested_tunnels_are_in_line :
    let kinds := { kind | kind ∈ [tunnel, nestedTunnel].flatMap lineage }
    Family kinds ∧ tunnel.accepts nestedTunnel = true ∧ secureTunnel.accepts nestedTunnel = true ∧
      (tunnel.accepts secureTunnel = true ∨ secureTunnel.accepts tunnel = true) ∧
      nestedTunnel.accepts secureTunnel = false := by
  intro kinds
  have consistent : Consistent ([tunnel, nestedTunnel].flatMap lineage) := by decide
  have family : Family kinds := consistent.family (closed_lineages _)
  have nested : nestedTunnel ∈ kinds := mem_lineages (by simp)
  have secure : secureTunnel ∈ kinds := family.closed nestedTunnel nested secureTunnel rfl
  obtain ⟨-, -, -, -, ordered⟩ := acceptance_follows_ancestry
  have orders := ordered kinds family
  have line := orders.linear nestedTunnel nested tunnel (mem_lineages (by simp)) secureTunnel
    secure rfl rfl
  exact ⟨family, rfl, rfl, line, (orders.strict nestedTunnel nested secureTunnel (.single rfl)).1⟩

end Encapsulation.Kind
