import Encapsulation.Proofs.Builder.LengthField
import Encapsulation.Proofs.Packet.Library

/-!
# Builders under drafts

A builder is put under drafts one by one, from the inside out. Every draft of the library works its
header and its pad out of the number of bytes inside, and of nothing else that is inside. Equal
packets have equally many bytes, so one draft makes one layer around both, and the packets around
them are equal as well; and a layer is equal to itself, so nothing but the packets inside decides.
-/
namespace Encapsulation

/-- A composed layer agrees with itself. -/
theorem Layer.Composed.matches_self {layer : Layer} (composed : layer.Composed) :
    layer.Matches layer := by
  have same : Packet.plainEquals (.bare layer) (.bare layer) = true := Packet.plainEquals_self _
  obtain ⟨other, equal, fit⟩ := (Packet.plainEquals_bare composed).mp same
  cases equal
  exact fit

namespace Builder

/-- A builder under some drafts, the first of which is the outermost layer. -/
def under (drafts : List Draft) (builder : Builder) : Builder :=
  drafts.foldr (fun draft payload => withPayload (.bare draft) payload) builder

variable {drafts : List Draft} {builder left right : Builder}

/-- A builder under no drafts stays as it is. -/
@[simp]
theorem under_nil (builder : Builder) : builder.under [] = builder := rfl

/-- The first draft is the outermost layer. -/
@[simp]
theorem under_cons (draft : Draft) (drafts : List Draft) (builder : Builder) :
    builder.under (draft :: drafts) = .wrap draft (builder.under drafts) := rfl

/-- A builder of the library under drafts of the library is one. -/
theorem Library.under (library : builder.Library)
    (drafted : ∀ draft ∈ drafts, draft.sort.isLibrary = true) :
    (builder.under drafts).Library := by
  induction drafts with
  | nil => exact library
  | cons draft drafts ih =>
    intro inner member
    rw [under_cons, Chain.walk_wrap, List.mem_cons] at member
    rcases member with rfl | member
    · exact drafted draft List.mem_cons_self
    · exact ih (fun other known => drafted other (List.mem_cons_of_mem draft known)) inner member

/-- Equal packets made of builders of the library are of one length. -/
theorem Library.plainLength_eq_of_plainEquals (library : left.Library)
    (otherLibrary : right.Library)
    (equal : left.plainBuild.plainEquals right.plainBuild = true) :
    left.plainBuild.plainLength = right.plainBuild.plainLength := by
  have bytes : left.plainBuild.plainBytes = right.plainBuild.plainBytes :=
    library.packet.composed.plainBytes_eq otherLibrary.packet.composed equal
  have agrees : left.plainBuild.plainBytes.length = left.plainBuild.plainLength :=
    library.regular.agrees
  have otherAgrees : right.plainBuild.plainBytes.length = right.plainBuild.plainLength :=
    otherLibrary.regular.agrees
  rw [← agrees, ← otherAgrees, bytes]

/-- Packets made under the same drafts are equal if and only if the packets inside are. -/
theorem Library.plainEquals_under_iff (library : left.Library) (otherLibrary : right.Library)
    (drafted : ∀ draft ∈ drafts, draft.sort.isLibrary = true) :
    (left.under drafts).plainBuild.plainEquals (right.under drafts).plainBuild = true ↔
      left.plainBuild.plainEquals right.plainBuild = true := by
  induction drafts with
  | nil => exact Iff.rfl
  | cons draft drafts ih =>
    have known : draft.sort.isLibrary = true := drafted draft List.mem_cons_self
    have others : ∀ other ∈ drafts, other.sort.isLibrary = true :=
      fun other member => drafted other (List.mem_cons_of_mem draft member)
    have composed : ∀ count, (draft.plainFinish count).Composed :=
      fun count => Layer.composed_of_library (draft.isLibrary_plainFinish known count)
    rw [under_cons, under_cons, plainBuild, plainBuild, Packet.plainEquals_wrap (composed _),
      ← ih others]
    constructor
    · rintro ⟨layer, payload, same, -, equal⟩
      cases same
      exact equal
    · intro equal
      have count := (library.under others).plainLength_eq_of_plainEquals
        (otherLibrary.under others) equal
      refine ⟨_, _, rfl, ?_, equal⟩
      rw [count]
      exact (composed _).matches_self

end Builder

end Encapsulation
