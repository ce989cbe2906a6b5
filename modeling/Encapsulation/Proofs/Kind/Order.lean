import Encapsulation.Kind
import Mathlib.Data.Set.Defs

/-!
# Kinds and their ancestors

A kind accepts another one if its owner is among the owners of the other kind and of its ancestors.
Since identity goes by owner and parents are given kind by kind, two kinds of one owner may have
different ancestors. A family of kinds is consistent if that does not happen in it: then acceptance
is transitive there.
-/
namespace Encapsulation.Kind

/-- A kind and its ancestors, from the kind upwards. -/
def lineage : Kind → List Kind
  | root name owner => [root name owner]
  | sub name owner parent => sub name owner parent :: parent.lineage

/-- The identities of a kind and of its ancestors, from the kind upwards. -/
def owners (kind : Kind) : List Owner := kind.lineage.map owner

/-- A kind belongs to its own lineage. -/
@[simp]
theorem mem_lineage_self (kind : Kind) : kind ∈ kind.lineage := by
  cases kind <;> simp [lineage]

/-- A parent belongs to the lineage. -/
theorem mem_lineage_of_parent {kind parent : Kind} (above : kind.parent? = some parent) :
    parent ∈ kind.lineage := by
  cases kind with
  | root name owner => cases above
  | sub name owner found =>
    obtain rfl := Option.some.inj above
    simp [lineage]

/-- The lineage of an ancestor is where that of the kind ends. -/
theorem lineage_suffix {ancestor kind : Kind} (above : ancestor ∈ kind.lineage) :
    ancestor.lineage <:+ kind.lineage := by
  induction kind with
  | root name owner =>
    rw [lineage, List.mem_singleton] at above
    exact above ▸ List.suffix_refl _
  | sub name owner parent ih =>
    rw [lineage, List.mem_cons] at above
    rcases above with rfl | above
    · exact List.suffix_refl _
    · exact (ih above).trans (List.suffix_cons _ _)

/-- The owner of a kind is the first of its owners. -/
theorem owner_mem_owners (kind : Kind) : kind.owner ∈ kind.owners :=
  List.mem_map_of_mem kind.mem_lineage_self

/-- A kind accepts those kinds that have its owner in their lineage. -/
theorem accepts_iff {kind other : Kind} :
    kind.accepts other = true ↔ kind.owner ∈ other.owners := by
  induction other with
  | root name owner => simp [accepts, owners, lineage, Kind.owner]
  | sub name owner parent ih =>
    have inside : kind.accepts parent = true ↔ kind.owner ∈ parent.lineage.map Kind.owner := ih
    simp [accepts, owners, lineage, inside, Kind.owner]

/-- A kind accepts itself. -/
theorem accepts_self (kind : Kind) : kind.accepts kind = true :=
  accepts_iff.mpr kind.owner_mem_owners

/-- A kind without a parent is accepted by the kinds of its owner only. -/
theorem accepts_iff_of_root {kind other : Kind} (alone : other.parent? = none) :
    kind.accepts other = true ↔ kind.owner = other.owner := by
  cases other with
  | root name owner => simp [accepts, Kind.owner]
  | sub name owner parent => cases alone

/-- A family of kinds holds the parents of its members. -/
def Closed (family : List Kind) : Prop :=
  ∀ kind ∈ family, ∀ parent, kind.parent? = some parent → parent ∈ family

/-- A kind and its ancestors are a closed family. -/
theorem closed_lineage (kind : Kind) : Closed kind.lineage := by
  intro ancestor below parent above
  exact (lineage_suffix below).subset (mem_lineage_of_parent above)

/-- Closed families are closed together. -/
theorem Closed.flatMap {α : Type} {items : List α} {families : α → List Kind}
    (closed : ∀ item ∈ items, Closed (families item)) : Closed (items.flatMap families) := by
  intro kind member parent above
  obtain ⟨item, listed, inside⟩ := List.mem_flatMap.mp member
  exact List.mem_flatMap.mpr ⟨item, listed, closed item listed kind inside parent above⟩

/-- Some kinds and their ancestors are a closed family. -/
theorem closed_lineages (kinds : List Kind) : Closed (kinds.flatMap lineage) :=
  Closed.flatMap fun kind _ => closed_lineage kind

/-- A family that lists some kinds with their ancestors holds these kinds. -/
theorem mem_lineages {kind : Kind} {kinds : List Kind} (listed : kind ∈ kinds) :
    kind ∈ kinds.flatMap lineage :=
  List.mem_flatMap.mpr ⟨kind, listed, kind.mem_lineage_self⟩

/-- Two closed families are closed together. -/
theorem Closed.append {family other : List Kind} (closed : Closed family)
    (otherClosed : Closed other) : Closed (family ++ other) := by
  intro kind member parent above
  rcases List.mem_append.mp member with member | member
  · exact List.mem_append_left other (closed kind member parent above)
  · exact List.mem_append_right family (otherClosed kind member parent above)

/-- Members of a family that have one owner have parents of one owner, or both have none. -/
def Consistent (family : List Kind) : Prop :=
  ∀ first ∈ family, ∀ second ∈ family, first.owner = second.owner →
    first.parent?.map owner = second.parent?.map owner

instance (family : List Kind) : Decidable (Consistent family) :=
  inferInstanceAs (Decidable (∀ first ∈ family, ∀ second ∈ family, first.owner = second.owner →
    first.parent?.map owner = second.parent?.map owner))

/-- Kinds that hold the parents of their members, where members of one owner have parents of one
owner, or both have none. -/
structure Family (kinds : Set Kind) : Prop where
  /-- The parent of a member is a member. -/
  closed : ∀ kind ∈ kinds, ∀ parent, kind.parent? = some parent → parent ∈ kinds
  /-- Members of one owner have parents of one owner, or both have none. -/
  consistent : ∀ first ∈ kinds, ∀ second ∈ kinds, first.owner = second.owner →
    first.parent?.map owner = second.parent?.map owner

/-- A closed and consistent list of kinds is a family. -/
theorem Consistent.family {family : List Kind} (consistent : Consistent family)
    (closed : Closed family) : Family { kind | kind ∈ family } :=
  ⟨closed, consistent⟩

namespace Family

variable {kinds : Set Kind}

/-- A family holds the ancestors of its members. -/
theorem mem_of_lineage (family : Family kinds) {kind : Kind} (member : kind ∈ kinds) :
    ∀ ancestor ∈ kind.lineage, ancestor ∈ kinds := by
  induction kind with
  | root name owner =>
    intro ancestor above
    rw [lineage, List.mem_singleton] at above
    exact above ▸ member
  | sub name owner parent ih =>
    intro ancestor above
    rw [lineage, List.mem_cons] at above
    rcases above with rfl | above
    · exact member
    · exact ih (family.closed _ member parent rfl) ancestor above

/-- In a family, kinds of one owner have ancestors of the same owners. -/
theorem owners_eq (family : Family kinds) {first second : Kind} (member : first ∈ kinds)
    (otherMember : second ∈ kinds) (same : first.owner = second.owner) :
    first.owners = second.owners := by
  have parents := family.consistent first member second otherMember same
  -- Parents of one owner are in the family again, so the lineages go on alike.
  induction first generalizing second with
  | root name owner =>
    cases second with
    | root otherName otherOwner => simpa [owners, lineage] using same
    | sub otherName otherOwner otherParent => simp [parent?] at parents
  | sub name owner parent ih =>
    cases second with
    | root otherName otherOwner => simp [parent?] at parents
    | sub otherName otherOwner otherParent =>
      have above : parent.owner = otherParent.owner := by simpa [parent?] using parents
      have inFamily := family.closed _ member parent rfl
      have otherInFamily := family.closed _ otherMember otherParent rfl
      have onward : parent.owners = otherParent.owners :=
        ih inFamily otherInFamily above (family.consistent _ inFamily _ otherInFamily above)
      rw [owners, lineage, List.map_cons, owners, lineage, List.map_cons]
      exact List.cons_eq_cons.mpr ⟨same, onward⟩

/-- In a family, a kind accepts those kinds whose owners end with its own. -/
theorem accepts_iff_suffix (family : Family kinds) {kind other : Kind} (member : kind ∈ kinds)
    (otherMember : other ∈ kinds) :
    kind.accepts other = true ↔ kind.owners <:+ other.owners := by
  rw [accepts_iff]
  constructor
  · intro accepted
    obtain ⟨namesake, above, same⟩ := List.mem_map.mp accepted
    have inFamily := family.mem_of_lineage otherMember namesake above
    rw [← family.owners_eq inFamily member same]
    exact (lineage_suffix above).map owner
  · intro ending
    exact ending.subset kind.owner_mem_owners

/-- In a family, what a kind accepts is accepted by every kind that accepts it. -/
theorem accepts_trans (family : Family kinds) {top middle bottom : Kind} (member : middle ∈ kinds)
    (otherMember : bottom ∈ kinds) (first : top.accepts middle = true)
    (second : middle.accepts bottom = true) : top.accepts bottom = true := by
  rw [accepts_iff] at first ⊢
  exact ((family.accepts_iff_suffix member otherMember).mp second).subset first

end Family

/-- In a closed and consistent family, what a kind accepts is accepted by every kind that accepts
it. -/
theorem Consistent.accepts_trans {family : List Kind} (consistent : Consistent family)
    (closed : Closed family) {top middle bottom : Kind} (member : middle ∈ family)
    (otherMember : bottom ∈ family) (first : top.accepts middle = true)
    (second : middle.accepts bottom = true) : top.accepts bottom = true :=
  (consistent.family closed).accepts_trans member otherMember first second

end Encapsulation.Kind
