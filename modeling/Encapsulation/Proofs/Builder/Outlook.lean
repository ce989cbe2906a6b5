import Encapsulation.Builder
import Encapsulation.Proofs.Access.Readiness

/-!
# Outlook of builders

What a builder makes is found here by its fields alone, and so is whether it makes anything. The
length of a payload is asked for while the packet around it is built, which may spoil its bytes for
a layer further out that measures them: the outlook of a packet says what can be had of it right
after it was built. It grows with the outlook of the payload, and asking for fewer lengths never
makes it smaller.
-/
namespace Encapsulation

namespace Draft

/-- The layer made of a draft around a payload of some length. -/
def plainFinish (draft : Draft) (payloadLength : Nat) : Layer :=
  match draft with
  | ethernet draft => .ethernet (draft.headerFor payloadLength) (draft.padFor payloadLength)
  | llcSnap header => .llcSnap header
  | udp draft =>
    .udp (draft.headerWith
      (if draft.correctLength then UInt16.ofNat (UdpHeader.size + payloadLength)
      else draft.length))
  | custom layer => .custom layer

/-- Whether a draft asks for the length of its payload when it is built. -/
def asksLength : Draft → Bool
  | ethernet _ => true
  | udp draft => draft.correctLength
  | _ => false

/-- The sum that a draft works out from the length of its payload, if it does, fits. -/
def Fits (draft : Draft) (payloadLength : Nat) : Prop :=
  match draft with
  | udp draft => draft.correctLength = true → UdpHeader.size + payloadLength < UInt64.size
  | _ => True

/-- Without a payload there is nothing that does not fit. -/
theorem fits_zero (draft : Draft) : draft.Fits 0 := by
  cases draft with
  | udp draft => exact fun _ => by decide
  | ethernet draft => trivial
  | llcSnap header => trivial
  | custom layer => trivial

end Draft

/-- The packet that a builder makes. -/
def Builder.plainBuild : Builder → Packet
  | .unknown data => .unknown data
  | .bare draft => .bare (draft.plainFinish 0)
  | .wrap draft payload =>
    .wrap (draft.plainFinish (Packet.plainLength (plainBuild payload))) (plainBuild payload)

/-- A packet has as many layers as the builder that makes it. -/
@[simp]
theorem Builder.depth_plainBuild (builder : Builder) :
    builder.plainBuild.depth = builder.depth := by
  induction builder with
  | unknown data => rfl
  | bare draft => rfl
  | wrap draft payload ih => exact congrArg (· + 1) ih

/-- What can be had of a packet. -/
structure Outlook where
  /-- Its bytes. -/
  bytes : Prop
  /-- Its length. -/
  length : Prop
  /-- Its bytes, after its length has been asked for. -/
  measuredBytes : Prop

namespace Outlook

/-- The outlook where everything can be had. -/
def all : Outlook := ⟨True, True, True⟩

/-- The outlook after the length has been had. -/
def measured (outlook : Outlook) : Outlook := ⟨outlook.measuredBytes, True, outlook.measuredBytes⟩

/-- The outlook of a packet as its layer leaves it, given that of the payload. -/
def around (inside : Outlook) (layer : Layer) (packet : Packet) : Outlook where
  bytes := layer.replacement?.isSome = true ∨ inside.bytes
  length :=
    match layer.lengthRule with
    | .composed => inside.length ∧ packet.plainLength < UInt64.size
    | .measured => layer.replacement?.isSome = true ∨ inside.bytes
    | .fixed _ => True
  measuredBytes :=
    packet.Agrees ∧ (layer.replacement?.isSome = true ∨
      inside.bytes ∧ (layer.lengthRule = .composed → inside.measuredBytes))

/-- One outlook promises no more than another. -/
structure Le (less more : Outlook) : Prop where
  /-- The bytes can be had under the other outlook as well. -/
  bytes : less.bytes → more.bytes
  /-- The length can be had under the other outlook as well. -/
  length : less.length → more.length
  /-- The bytes can be had after the length under the other outlook as well. -/
  measuredBytes : less.measuredBytes → more.measuredBytes

/-- An outlook promises no more than itself. -/
theorem Le.refl (outlook : Outlook) : outlook.Le outlook := ⟨id, id, id⟩

/-- The outlook of a packet grows with that of its payload. -/
theorem Le.around {less more : Outlook} (le : less.Le more) (layer : Layer) (packet : Packet) :
    (less.around layer packet).Le (more.around layer packet) := by
  refine ⟨Or.imp_right le.bytes, ?_, And.imp_right (Or.imp_right ?_)⟩
  · unfold Outlook.around
    cases layer.lengthRule with
    | composed => exact And.imp_left le.length
    | measured => exact Or.imp_right le.bytes
    | fixed count => exact id
  · exact fun inside => ⟨le.bytes inside.1, fun rule => le.measuredBytes (inside.2 rule)⟩

/-- The outlook after the length grows with the outlook. -/
theorem Le.measured {less more : Outlook} (le : less.Le more) : less.measured.Le more.measured :=
  ⟨le.measuredBytes, id, le.measuredBytes⟩

end Outlook

/-- What can be had of the packet that a builder makes, right after it was made. -/
def Builder.outlook : Builder → Outlook
  | .unknown _ => .all
  | .bare draft => Outlook.all.around (draft.plainFinish 0) (plainBuild (.bare draft))
  | .wrap draft payload =>
    (if draft.asksLength then (outlook payload).measured else outlook payload).around
      (draft.plainFinish (Packet.plainLength (plainBuild payload)))
      (plainBuild (.wrap draft payload))

/-- A builder makes a packet: so does the builder of the payload, and a length that is asked for
can be had and fits. -/
def Builder.Buildable : Builder → Prop
  | .unknown _ => True
  | .bare _ => True
  | .wrap draft payload =>
    Buildable payload ∧ (draft.asksLength = true → (outlook payload).length) ∧
      draft.Fits (Packet.plainLength (plainBuild payload))

/-- Bytes that can be had after the length can be had before it. -/
theorem Builder.bytes_of_measuredBytes (builder : Builder)
    (measured : builder.outlook.measuredBytes) : builder.outlook.bytes := by
  cases builder with
  | unknown data => trivial
  | bare draft => exact .inr trivial
  | wrap draft payload => exact measured.2.imp_right And.left

end Encapsulation
