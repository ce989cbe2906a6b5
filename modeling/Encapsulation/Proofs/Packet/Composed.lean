import Encapsulation.Proofs.Access.Regular
import Encapsulation.Proofs.Kind.Order

/-!
# Composed packets

A composed packet is made of layers that put header, payload and pad one after another and keep to
the identity of their sort: only frames are of the frame's own kind, and only raw data is of its
kind. The layers of the library are composed, and so are those of callers that depart from nothing
and take neither of these two kinds.
-/
namespace Encapsulation

namespace Chain

variable {α : Type}

/-- Every layer of a chain has a property. -/
def Every (property : α → Prop) : Chain α → Prop
  | unknown _ => True
  | bare layer => property layer
  | wrap layer payload => property layer ∧ payload.Every property

/-- What every layer of a chain has, every layer of a chain inside it has. -/
theorem Every.inner {property : α → Prop} {chain inner : Chain α} (every : chain.Every property)
    (member : inner ∈ chain.walk) : inner.Every property := by
  induction chain with
  | unknown data =>
    rw [walk_unknown, List.mem_singleton] at member
    exact member ▸ every
  | bare layer =>
    rw [walk_bare, List.mem_singleton] at member
    exact member ▸ every
  | wrap layer payload ih =>
    rw [walk_wrap, List.mem_cons] at member
    rcases member with rfl | member
    · exact every
    · exact ih every.2 member

/-- A property that follows from another one is had by every layer that has the other one. -/
theorem Every.imp {property weaker : α → Prop} {chain : Chain α} (every : chain.Every property)
    (follows : ∀ layer, property layer → weaker layer) : chain.Every weaker := by
  induction chain with
  | unknown data => trivial
  | bare layer => exact follows layer every
  | wrap layer payload ih => exact ⟨follows layer every.1, ih every.2⟩

end Chain

namespace Layer

/-- A layer is composed of its parts, and is of the kind of frames only if it is a frame, and not
of the kind of raw data. -/
def Composed (layer : Layer) : Prop :=
  layer.sort ≠ .overriding ∧
    (layer.sort = .custom → layer.kind.owner ≠ .ethernet ∧ layer.kind.owner ≠ .unknown)

/-- A layer of a caller that is composed departs from nothing. -/
theorem Composed.overrides_eq_false {fields : CustomLayer}
    (composed : Composed (.custom fields)) : fields.overrides = false := by
  by_contra overrides
  exact composed.1 (by simp [sort, overrides])

/-- A layer of a caller that is composed is neither of the kind of frames nor of that of raw
data. -/
theorem Composed.owner_custom {fields : CustomLayer} (composed : Composed (.custom fields)) :
    fields.kind.owner ≠ .ethernet ∧ fields.kind.owner ≠ .unknown :=
  composed.2 (by simp [sort, composed.overrides_eq_false])

/-- A layer of the library is composed. -/
theorem composed_of_library {layer : Layer} (library : layer.sort.isLibrary = true) :
    layer.Composed := by
  constructor
  · intro overriding
    rw [overriding] at library
    cases library
  · intro custom
    rw [custom] at library
    cases library

/-- The kind of a layer of the library has no parent. -/
theorem parent?_of_library {layer : Layer} (library : layer.sort.isLibrary = true) :
    layer.kind.parent? = none := by
  cases layer with
  | ethernet header pad => rfl
  | llcSnap header => rfl
  | udp header => rfl
  | custom fields =>
    rw [sort] at library
    split at library
    · cases library
    · cases library

/-- A composed layer departs from the composition of its parts in nothing. -/
theorem Composed.rules {layer : Layer} (composed : layer.Composed) :
    layer.lengthRule = .composed ∧ layer.replacement? = none := by
  cases layer with
  | ethernet header pad => exact ⟨rfl, rfl⟩
  | llcSnap header => exact ⟨rfl, rfl⟩
  | udp header => exact ⟨rfl, rfl⟩
  | custom fields =>
    have plain := composed.overrides_eq_false
    rw [CustomLayer.overrides, Bool.or_eq_false_iff] at plain
    exact ⟨by simpa [lengthRule] using plain.2, by simpa [replacement?] using plain.1⟩

/-- A composed layer is regular. -/
theorem Composed.regular {layer : Layer} (composed : layer.Composed) : layer.Regular :=
  .inr composed.rules

/-- The bytes of a composed layer are those of header, payload and pad. -/
theorem Composed.plainBytes_eq {layer : Layer} (composed : layer.Composed) (payload : Bytes) :
    layer.plainBytes payload = layer.headerBytes ++ payload ++ layer.pad := by
  simp only [plainBytes, composed.rules.2]

/-- A composed layer is not of the kind of raw data. -/
theorem Composed.owner_ne_unknown {layer : Layer} (composed : layer.Composed) :
    layer.kind.owner ≠ .unknown := by
  cases layer with
  | ethernet header pad => exact fun same => by cases same
  | llcSnap header => exact fun same => by cases same
  | udp header => exact fun same => by cases same
  | custom fields => exact composed.owner_custom.2

/-- A composed layer of the kind of frames is a frame. -/
theorem Composed.eq_ethernet {layer : Layer} (composed : layer.Composed)
    (owner : layer.kind.owner = .ethernet) : ∃ header pad, layer = .ethernet header pad := by
  cases layer with
  | ethernet header pad => exact ⟨header, pad, rfl⟩
  | llcSnap header => cases owner
  | udp header => cases owner
  | custom fields => exact absurd owner composed.owner_custom.1

end Layer

namespace Packet

/-- Every layer of a packet is composed. -/
def Composed (packet : Packet) : Prop := packet.Every Layer.Composed

/-- Every layer of a packet is one of the library's own. -/
def Library (packet : Packet) : Prop := packet.Every fun layer => layer.sort.isLibrary = true

/-- A packet of the library is composed. -/
theorem Library.composed {packet : Packet} (library : packet.Library) : packet.Composed :=
  Chain.Every.imp library fun _ => Layer.composed_of_library

/-- A layer inside a composed packet is composed. -/
theorem Composed.inner {packet inner : Packet} (composed : packet.Composed)
    (member : inner ∈ packet.walk) : inner.Composed :=
  Chain.Every.inner composed member

/-- A layer inside a packet of the library is one of the library's own. -/
theorem Library.inner {packet inner : Packet} (library : packet.Library)
    (member : inner ∈ packet.walk) : inner.Library :=
  Chain.Every.inner library member

/-- The outermost layer of a packet of the library is one of the library's own. -/
theorem Library.layer {packet : Packet} {layer : Layer} (library : packet.Library)
    (outermost : packet.layer? = some layer) : layer.sort.isLibrary = true := by
  cases packet with
  | unknown data => cases outermost
  | bare found =>
    obtain rfl : found = layer := Option.some.inj outermost
    exact library
  | wrap found payload =>
    obtain rfl : found = layer := Option.some.inj outermost
    exact library.1

/-- A composed packet is regular. -/
theorem Composed.regular {packet : Packet} (composed : packet.Composed) : packet.Regular := by
  induction packet with
  | unknown data => trivial
  | bare layer => exact Layer.Composed.regular composed
  | wrap layer payload ih => exact ⟨composed.1.regular, ih composed.2⟩

/-- A layer inside a composed packet has no more bytes than the packet. -/
theorem Composed.length_le {packet inner : Packet} (composed : packet.Composed)
    (member : inner ∈ packet.walk) : inner.plainBytes.length ≤ packet.plainBytes.length := by
  induction packet with
  | unknown data =>
    rw [Chain.walk_unknown, List.mem_singleton] at member
    rw [member]
  | bare layer =>
    rw [Chain.walk_bare, List.mem_singleton] at member
    rw [member]
  | wrap layer payload ih =>
    rw [Chain.walk_wrap, List.mem_cons] at member
    rcases member with rfl | member
    · exact Nat.le_refl _
    · have within := ih composed.2 member
      rw [plainBytes, composed.1.plainBytes_eq]
      simp only [List.length_append]
      omega

/-- The lengths of a composed packet fit if the number of its bytes does. -/
theorem Composed.fitting {packet : Packet} (composed : packet.Composed)
    (fits : packet.plainBytes.length < UInt64.size) : packet.Fitting := by
  intro inner member
  have agrees : inner.plainBytes.length = inner.plainLength :=
    (composed.inner member).regular.agrees
  rw [← agrees]
  exact Nat.lt_of_le_of_lt (composed.length_le member) fits

end Packet

end Encapsulation
