import Encapsulation.Proofs.Access.Equality
import Encapsulation.Proofs.Builder.Outlook

/-!
# Regular packets

A layer is regular if it composes both its length and its bytes, or measures its length. In a
packet of regular layers, the sums of lengths and the concatenations of bytes go side by side, so
the number of bytes is the length at every layer. Where the lengths fit, every view of such a packet
can be had, whatever is remembered.
-/
namespace Encapsulation

open Memo (Bank)

namespace Layer

/-- The length of a layer goes with its bytes: it is measured, or both are composed. -/
def Regular (layer : Layer) : Prop :=
  layer.lengthRule = .measured ∨ layer.lengthRule = .composed ∧ layer.replacement? = none

instance (layer : Layer) : Decidable layer.Regular :=
  inferInstanceAs (Decidable (_ ∨ _))

/-- The header of a layer has as many bytes as its size says. -/
theorem length_headerBytes (layer : Layer) : layer.headerBytes.length = layer.headerSize := by
  unfold headerBytes headerSize
  cases layer.header? with
  | none => rfl
  | some header => exact header.length_bytes

/-- The composed bytes of a layer are as many as its parts have together. -/
theorem length_plainBytes {layer : Layer} (composed : layer.replacement? = none)
    (payload : Bytes) :
    (layer.plainBytes payload).length = layer.headerSize + payload.length + layer.pad.length := by
  simp only [plainBytes, composed, List.length_append, length_headerBytes]

/-- The length of a regular layer is the number of its bytes, if that holds of the payload. -/
theorem Regular.length_eq {layer : Layer} (regular : layer.Regular) (payload : Bytes) :
    layer.plainLength payload.length (layer.plainBytes payload) =
      (layer.plainBytes payload).length := by
  rcases regular with measured | ⟨rule, composed⟩
  · simp only [plainLength, measured]
  · simp only [plainLength, rule, length_plainBytes composed]

end Layer

namespace Packet

/-- Every layer of a packet is regular. -/
def Regular : Packet → Prop
  | .unknown _ => True
  | .bare layer => layer.Regular
  | .wrap layer payload => layer.Regular ∧ Regular payload

/-- The length of every layer of a packet fits. -/
def Fitting (packet : Packet) : Prop :=
  ∀ inner : Packet, inner ∈ packet.walk → inner.plainLength < UInt64.size

variable {chain : Nat} {packet : Packet}

/-- Every layer inside a regular packet is regular. -/
theorem Regular.inner {inner : Packet} (regular : packet.Regular) (member : inner ∈ packet.walk) :
    inner.Regular := by
  induction packet with
  | unknown data =>
    rw [Chain.walk_unknown, List.mem_singleton] at member
    exact member ▸ regular
  | bare layer =>
    rw [Chain.walk_bare, List.mem_singleton] at member
    exact member ▸ regular
  | wrap layer payload ih =>
    rw [Chain.walk_wrap, List.mem_cons] at member
    rcases member with rfl | member
    · exact regular
    · exact ih regular.2 member

/-- Every layer inside a packet whose lengths fit has a length that fits. -/
theorem Fitting.inner {inner : Packet} (fitting : packet.Fitting) (member : inner ∈ packet.walk) :
    inner.Fitting :=
  fun further walked => fitting further (Chain.mem_walk_trans member walked)

/-- The length of a regular packet is the number of its bytes. -/
theorem Regular.agrees (regular : packet.Regular) : packet.Agrees := by
  unfold Agrees
  induction packet with
  | unknown data => rfl
  | bare layer => exact (Layer.Regular.length_eq regular []).symm
  | wrap layer payload ih =>
    have inside := ih regular.2
    rw [plainLength, ← inside, plainBytes, regular.1.length_eq]

/-- The bytes of a regular packet can always be had. -/
theorem Regular.bytesReady (regular : packet.Regular) (bank : Bank Cell Cell.Value) :
    packet.BytesReady chain bank := by
  induction packet with
  | unknown data => trivial
  | bare layer => exact fun _ => regular.agrees
  | wrap layer payload ih => exact ⟨fun _ => regular.agrees, .inr (.inr (ih regular.2))⟩

/-- The length of a regular packet can always be had if the lengths fit. -/
theorem Regular.lengthReady (regular : packet.Regular) (fitting : packet.Fitting)
    (bank : Bank Cell Cell.Value) : packet.LengthReady chain bank := by
  induction packet with
  | unknown data => trivial
  | bare layer =>
    refine .inr ?_
    cases layer.lengthRule with
    | composed => exact fitting _ (Chain.mem_walk_self _)
    | measured => exact regular.bytesReady bank
    | fixed count => trivial
  | wrap layer payload ih =>
    have inside : LengthReady chain bank payload :=
      ih regular.2 (fitting.inner (Chain.mem_walk_wrap payload.mem_walk_self))
    refine .inr ?_
    cases layer.lengthRule with
    | composed => exact ⟨inside, fitting _ (Chain.mem_walk_self _)⟩
    | measured => exact regular.bytesReady bank
    | fixed count => trivial

/-- Every view of a regular packet can always be had if the lengths fit. -/
theorem Regular.ready (regular : packet.Regular) (fitting : packet.Fitting)
    (bank : Bank Cell Cell.Value) (view : View) : packet.Ready chain bank view := by
  cases view with
  | length => exact regular.lengthReady fitting bank
  | bytes => exact regular.bytesReady bank
  | hex => exact .inr (regular.bytesReady bank)
  | text => trivial
  | hash => exact .inr (regular.bytesReady bank)

/-- Every packet can be compared with a regular one. -/
theorem Regular.equalsReady {other : Packet} (regular : other.Regular) (packet : Packet)
    (bank : Bank Cell Cell.Value) : packet.EqualsReady chain bank other := by
  induction packet generalizing other with
  | unknown data => exact fun _ => regular.bytesReady bank
  | bare layer => trivial
  | wrap layer payload ih =>
    intro _ _ otherPayload present
    cases other with
    | unknown data => cases present
    | bare otherLayer => cases present
    | wrap otherLayer inside =>
      obtain rfl : inside = otherPayload := by simpa [Chain.payload?] using present
      exact ih regular.2

end Packet

/-- Everything can be had of a packet whose bytes are as many as its length, if that fits and
everything can be had of the payload. -/
theorem Outlook.all_le_around {inside : Outlook} (le : all.Le inside) (layer : Layer)
    {packet : Packet} (agrees : packet.Agrees) (fits : packet.plainLength < UInt64.size) :
    all.Le (inside.around layer packet) := by
  refine ⟨fun _ => .inr (le.bytes trivial), fun _ => ?_, fun _ => ⟨agrees, .inr ?_⟩⟩
  · unfold Outlook.around
    cases layer.lengthRule with
    | composed => exact ⟨le.length trivial, fits⟩
    | measured => exact .inr (le.bytes trivial)
    | fixed count => trivial
  · exact ⟨le.bytes trivial, fun _ => le.measuredBytes trivial⟩

/-- A datagram that works out its length has room for the sum if its own length fits. -/
theorem Draft.fits_of_plainLength_lt {draft : Draft} {payloadLength : Nat} {bytes : Bytes}
    (fits : (draft.plainFinish payloadLength).plainLength payloadLength bytes < UInt64.size) :
    draft.Fits payloadLength := by
  cases draft with
  | ethernet draft => trivial
  | llcSnap header => trivial
  | custom layer => trivial
  | udp draft =>
    intro _
    exact fits

namespace Builder

/-- Everything can be had of a regular packet right after it was built, if the lengths fit. -/
theorem outlook_of_regular {builder : Builder} (regular : builder.plainBuild.Regular)
    (fitting : builder.plainBuild.Fitting) : Outlook.all.Le builder.outlook := by
  induction builder with
  | unknown data => exact .refl _
  | bare draft =>
    exact Outlook.all_le_around (.refl _) _ regular.agrees (fitting _ (Chain.mem_walk_self _))
  | wrap draft payload ih =>
    have inside : Outlook.all.Le (outlook payload) :=
      ih regular.2 (fitting.inner (Chain.mem_walk_wrap (Chain.mem_walk_self _)))
    refine Outlook.all_le_around ?_ _ regular.agrees (fitting _ (Chain.mem_walk_self _))
    cases draft.asksLength with
    | true => exact inside.measured
    | false => exact inside

/-- A builder of a regular packet whose lengths fit makes it. -/
theorem buildable_of_regular {builder : Builder} (regular : builder.plainBuild.Regular)
    (fitting : builder.plainBuild.Fitting) : builder.Buildable := by
  induction builder with
  | unknown data => trivial
  | bare draft => trivial
  | wrap draft payload ih =>
    have within := fitting.inner (Chain.mem_walk_wrap (Chain.mem_walk_self _))
    refine ⟨ih regular.2 within, fun _ => (outlook_of_regular regular.2 within).length trivial, ?_⟩
    exact Draft.fits_of_plainLength_lt (fitting _ (Chain.mem_walk_self _))

end Builder

namespace Layer

/-- A layer made anew around a payload of any length keeps its size and its rules. -/
theorem shape_reopen (layer : Layer) (payloadLength : Nat) :
    (layer.reopen.plainFinish payloadLength).lengthRule = layer.lengthRule ∧
      (layer.reopen.plainFinish payloadLength).replacement? = layer.replacement? ∧
      (layer.reopen.plainFinish payloadLength).headerSize = layer.headerSize ∧
      (layer.reopen.plainFinish payloadLength).pad = layer.pad := by
  cases layer with
  | ethernet header pad =>
    refine ⟨rfl, rfl, ?_, rfl⟩
    simp [reopen, Draft.plainFinish, EthernetDraft.headerFor, headerSize, header?, Header.size,
      Header.fields, EthernetHeader.fields]
  | llcSnap header => exact ⟨rfl, rfl, rfl, rfl⟩
  | udp header => exact ⟨rfl, rfl, rfl, rfl⟩
  | custom layer => exact ⟨rfl, rfl, rfl, rfl⟩

/-- A layer made anew is regular if the layer was. -/
theorem Regular.reopen {layer : Layer} (regular : layer.Regular) (payloadLength : Nat) :
    (layer.reopen.plainFinish payloadLength).Regular := by
  obtain ⟨rule, replacement, -, -⟩ := layer.shape_reopen payloadLength
  rw [Regular, rule, replacement]
  exact regular

/-- A layer made anew around bytes of any contents has as many bytes as the layer had around as
many. -/
theorem length_plainBytes_reopen (layer : Layer) (payloadLength : Nat) {new old : Bytes}
    (same : new.length = old.length) :
    ((layer.reopen.plainFinish payloadLength).plainBytes new).length =
      (layer.plainBytes old).length := by
  obtain ⟨-, replacement, size, pad⟩ := layer.shape_reopen payloadLength
  unfold plainBytes
  rw [replacement]
  cases layer.replacement? with
  | some bytes => rfl
  | none => simp only [List.length_append, length_headerBytes, size, pad, same]

end Layer

namespace Packet

variable {packet : Packet}

/-- A packet that is built anew from its own builder is regular if the packet was. -/
theorem Regular.reopen (regular : packet.Regular) :
    (Builder.plainBuild packet.reopen).Regular := by
  induction packet with
  | unknown data => trivial
  | bare layer => exact Layer.Regular.reopen regular 0
  | wrap layer payload ih => exact ⟨regular.1.reopen _, ih regular.2⟩

/-- A packet that is built anew from its own builder has as many bytes as the packet. -/
theorem length_plainBytes_reopen (packet : Packet) :
    (Builder.plainBuild packet.reopen).plainBytes.length = packet.plainBytes.length := by
  induction packet with
  | unknown data => rfl
  | bare layer => exact layer.length_plainBytes_reopen 0 rfl
  | wrap layer payload ih => exact layer.length_plainBytes_reopen _ ih

/-- The lengths of a regular packet that is built anew fit if those of the packet do. -/
theorem Fitting.reopen (fitting : packet.Fitting) (regular : packet.Regular) :
    (Builder.plainBuild packet.reopen).Fitting := by
  have outermost : ∀ packet : Packet, packet.Regular → packet.plainLength < UInt64.size →
      (Builder.plainBuild packet.reopen).plainLength < UInt64.size := by
    intro packet regular fits
    rw [← regular.reopen.agrees, length_plainBytes_reopen, regular.agrees]
    exact fits
  intro inner member
  induction packet with
  | unknown data =>
    obtain rfl : inner = .unknown data := List.mem_singleton.mp member
    exact fitting _ (Chain.mem_walk_self _)
  | bare layer =>
    obtain rfl := List.mem_singleton.mp member
    exact outermost (.bare layer) regular (fitting _ (Chain.mem_walk_self _))
  | wrap layer payload ih =>
    rcases List.mem_cons.mp member with rfl | member
    · exact outermost (.wrap layer payload) regular (fitting _ (Chain.mem_walk_self _))
    · exact ih (fitting.inner (Chain.mem_walk_wrap payload.mem_walk_self)) regular.2 member

end Packet

end Encapsulation
