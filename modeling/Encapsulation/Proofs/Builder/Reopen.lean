import Encapsulation.Proofs.Builder.Outlook

/-!
# Builders that packets give back

The builder that a packet gives back has nothing left to work out except the length of the payload
in an Ethernet header with LLC, and the payload of a rebuilt packet has the length that it had. So
it makes the same packet again. It asks for no length that the first builder did not ask for, so it
makes it whenever the first one did.
-/
namespace Encapsulation

namespace Draft

/-- A layer that was made around a payload of some length gives back a draft that becomes that
layer around a payload of that length. -/
theorem plainFinish_reopen (draft : Draft) (payloadLength : Nat) :
    (draft.plainFinish payloadLength).reopen.plainFinish payloadLength =
      draft.plainFinish payloadLength := by
  cases draft with
  | ethernet draft => rfl
  | llcSnap header => rfl
  | udp draft => rfl
  | custom layer => rfl

/-- The draft that a layer gives back asks for the length of its payload only if the draft that
the layer was made of did. -/
theorem asksLength_of_reopen {draft : Draft} {payloadLength : Nat}
    (asks : (draft.plainFinish payloadLength).reopen.asksLength = true) :
    draft.asksLength = true := by
  cases draft with
  | ethernet draft => rfl
  | llcSnap header => exact asks
  | udp draft => cases asks
  | custom layer => exact asks

/-- The draft that a layer gives back has no sum to work out. -/
theorem fits_reopen (layer : Layer) (payloadLength : Nat) : layer.reopen.Fits payloadLength := by
  cases layer with
  | ethernet header pad => trivial
  | llcSnap header => trivial
  | udp header =>
    intro unsummed
    cases unsummed
  | custom layer => trivial

end Draft

namespace Builder

/-- A rebuilt packet has the fields of the packet that it was rebuilt from. -/
theorem plainBuild_reopen (builder : Builder) :
    plainBuild (builder.plainBuild.reopen) = builder.plainBuild := by
  induction builder with
  | unknown data => rfl
  | bare draft => exact congrArg Chain.bare (draft.plainFinish_reopen 0)
  | wrap draft payload ih =>
    have inside : plainBuild (Chain.map Layer.reopen (plainBuild payload)) =
        plainBuild payload := ih
    simp only [plainBuild, Packet.reopen, Chain.map, inside, Draft.plainFinish_reopen]

/-- The outlook of a payload as the layer around it is rebuilt promises no less than when the layer
was built: the length is asked for only if it was asked for then. -/
theorem asked_le_reopen {draft : Draft} {payload : Builder} (payloadLength : Nat)
    (le : payload.outlook.Le (outlook payload.plainBuild.reopen))
    (known : draft.asksLength = true → payload.outlook.length) :
    (if draft.asksLength then payload.outlook.measured else payload.outlook).Le
      (if (draft.plainFinish payloadLength).reopen.asksLength then
        (outlook payload.plainBuild.reopen).measured
      else outlook payload.plainBuild.reopen) := by
  by_cases asks : draft.asksLength = true
  · rw [if_pos asks]
    by_cases again : (draft.plainFinish payloadLength).reopen.asksLength = true
    · rw [if_pos again]
      exact le.measured
    · rw [if_neg again]
      refine ⟨fun measured => ?_, fun _ => le.length (known asks), le.measuredBytes⟩
      exact bytes_of_measuredBytes _ (le.measuredBytes measured)
  · rw [if_neg asks, if_neg fun again => asks (Draft.asksLength_of_reopen again)]
    exact le

/-- The outlook of a rebuilt packet promises no less than that of the packet it was rebuilt
from. -/
theorem outlook_le_reopen {builder : Builder} (buildable : builder.Buildable) :
    builder.outlook.Le (outlook builder.plainBuild.reopen) := by
  induction builder with
  | unknown data => exact .refl _
  | bare draft =>
    have layer := draft.plainFinish_reopen 0
    simp only [plainBuild, Packet.reopen, Chain.map, outlook, layer]
    exact .refl _
  | wrap draft payload ih =>
    have inside := plainBuild_reopen payload
    have layer := draft.plainFinish_reopen (Packet.plainLength (plainBuild payload))
    have around := (asked_le_reopen (Packet.plainLength (plainBuild payload)) (ih buildable.1)
      buildable.2.1).around (draft.plainFinish (Packet.plainLength (plainBuild payload)))
      (plainBuild (.wrap draft payload))
    have whole :
        plainBuild (.wrap (draft.plainFinish (Packet.plainLength (plainBuild payload))).reopen
          (plainBuild payload).reopen) = plainBuild (.wrap draft payload) :=
      plainBuild_reopen (.wrap draft payload)
    change Outlook.Le _ (outlook (.wrap
      (draft.plainFinish (Packet.plainLength (plainBuild payload))).reopen
      (plainBuild payload).reopen))
    rw [outlook, outlook, whole, inside, layer]
    exact around

/-- The builder that a packet gives back makes a packet. -/
theorem Buildable.reopen {builder : Builder} (buildable : builder.Buildable) :
    Buildable builder.plainBuild.reopen := by
  induction builder with
  | unknown data => trivial
  | bare draft => trivial
  | wrap draft payload ih =>
    refine ⟨ih buildable.1, fun asks => ?_, Draft.fits_reopen _ _⟩
    exact (outlook_le_reopen buildable.1).length
      (buildable.2.1 (Draft.asksLength_of_reopen asks))

end Builder

end Encapsulation
