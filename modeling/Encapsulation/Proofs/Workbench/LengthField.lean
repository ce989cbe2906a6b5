import Encapsulation.Proofs.Builder.LengthField
import Encapsulation.Proofs.Workbench.Shown

/-!
# Length fields on a bench

What a bench builds out of drafts of the library can be taken apart by its length fields alone: in
the bytes that the packet shows, each layer lies behind the headers outside it, the length fields
that were worked out give the data inside, and what follows a layer is the pads around it.
-/
namespace Encapsulation.Workbench

variable {bench : Workbench}

/-- A packet shows some bytes inside its outermost layer: those of its payload, or none if there is
no payload. -/
def ShowsInside (bench : Workbench) (target : Located) (inside : Bytes) : Prop :=
  match target.packet.payload? with
  | some payload => bench.Shows ⟨target.chain, payload⟩ .bytes inside
  | none => inside = []

/-- A composed packet on a sound bench shows its bytes. -/
theorem Sound.shows_bytes {target : Located} (sound : bench.Sound) (held : bench.Holds target)
    (composed : target.packet.Composed) : bench.Shows target .bytes target.packet.plainBytes :=
  sound.shows held fun bank => composed.regular.bytesReady bank

/-- A composed packet on a sound bench shows the bytes inside its outermost layer. -/
theorem Sound.shows_inside {target : Located} (sound : bench.Sound) (held : bench.Holds target)
    (composed : target.packet.Composed) : bench.ShowsInside target target.packet.inside := by
  obtain ⟨chain, packet⟩ := target
  cases packet with
  | unknown data => rfl
  | bare layer => rfl
  | wrap layer payload =>
    have inner := held.inner (Chain.mem_walk_wrap payload.mem_walk_self)
    exact sound.shows_bytes inner composed.2

/-- After any run from any store, a builder of Ethernet, LLC/SNAP, UDP and raw data whose wire form
has a length that fits makes a packet. Whenever it makes one, each layer of the packet is found in
the bytes that the packet shows: it starts behind the headers of the layers outside it, its length
field delimits the data inside, and the pads of the frames outside it follow, innermost first. -/
theorem length_fields_delimit_data (chains : Array (Option Packet)) (copies : Array Header)
    (history : List Operation) (builder : Builder) (library : builder.Library) :
    let bench := run ⟨.initial, chains, copies⟩ history
    (builder.wire.length < UInt64.size →
        ∃ number reached, build builder bench = .ok number reached) ∧
      ∀ number reached, build builder bench = .ok number reached →
        ∃ packet frame, reached.chains[number]? = some (some packet) ∧
          reached.Shows ⟨number, packet⟩ .bytes frame ∧
          ∀ position layer, packet.inner? position = some layer →
            ∃ part own inside, builder.inner? position = some part ∧
              reached.Shows ⟨number, layer⟩ .bytes own ∧
              reached.ShowsInside ⟨number, layer⟩ inside ∧
              Builder.Delimits part layer frame (packet.offset position) own inside ∧
              frame.extract (packet.offset position) (packet.offset position + own.length) = own ∧
              frame.drop (packet.offset position + own.length) =
                packet.enclosingPads position := by
  intro bench
  obtain ⟨-, sound⟩ := run_leads (sound_start chains copies) history
  constructor
  · intro fits
    obtain ⟨reached, returned, -⟩ := sound.build_returns
      (Builder.buildable_of_regular library.regular (library.fitting fits))
    exact ⟨_, reached, returned⟩
  · intro number reached returned
    obtain ⟨after, -, kept, ⟨-, made, filed⟩ | ⟨-, cause, failed⟩⟩ := build_cases sound builder
    · obtain ⟨rfl, rfl⟩ := EStateM.Result.ok.inj (returned.symm.trans made)
      have composed := library.packet.composed
      have held : reached.Holds ⟨bench.chains.size, builder.plainBuild⟩ :=
        ⟨builder.plainBuild, filed, Chain.mem_walk_self _⟩
      refine ⟨builder.plainBuild, _, filed, kept.shows_bytes held composed, ?_⟩
      intro position layer found
      obtain ⟨part, present, rfl⟩ := Builder.inner?_plainBuild found
      have member : part.plainBuild ∈ builder.plainBuild.walk := List.mem_of_getElem? found
      obtain ⟨front, start, split⟩ := composed.plainBytes_split found
      have delimits := (library.inner (List.mem_of_getElem? present)).delimits split
      rw [← start]
      exact ⟨part, _, _, present, kept.shows_bytes (held.inner member) (composed.inner member),
        kept.shows_inside (held.inner member) (composed.inner member), delimits,
        Bytes.extract_of_eq_append split rfl rfl, Bytes.drop_of_eq_append split⟩
    · cases returned.symm.trans failed

/-- A datagram of two bytes in a frame that is filled up, in a frame with a pad of its own. -/
def tunnelDraft : Builder :=
  .wrap (.ethernet ⟨.zero, .zero, .llc, [0xee], false⟩)
    (.wrap (.ethernet { EthernetDraft.initial with etherType := .llc })
      (.wrap (.udp .initial) (.unknown [1, 2])))

/-- The length field of the datagram gives its ten bytes, and after them come the zeros of the inner
frame and the pad of the outer one. -/
theorem tunnelled_datagram_is_delimited :
    tunnelDraft.Library ∧
      ∃ number reached frame, build tunnelDraft .initial = .ok number reached ∧
        reached.Shows ⟨number, tunnelDraft.plainBuild⟩ .bytes frame ∧
        Bytes.number (frame.extract 32 34) = 10 ∧
        frame.extract 28 38 = [0, 0, 0, 0, 0, 10, 0, 0, 1, 2] ∧
        frame.drop 38 = List.replicate 36 0 ++ [0xee] := by
  have library : tunnelDraft.Library := by
    intro inner member
    simp only [tunnelDraft, Chain.walk_wrap, Chain.walk_unknown, List.mem_cons, List.not_mem_nil,
      or_false] at member
    rcases member with rfl | rfl | rfl | rfl <;> rfl
  have sound : Workbench.initial.Sound := sound_start #[] #[]
  obtain ⟨reached, returned, filed, -, kept⟩ := sound.build_returns
    (Builder.buildable_of_regular library.regular (library.fitting (by decide)))
  obtain ⟨-, delimited⟩ := length_fields_delimit_data #[] #[] [] tunnelDraft library
  obtain ⟨packet, frame, known, shown, layers⟩ := delimited _ reached returned
  obtain rfl : tunnelDraft.plainBuild = packet :=
    Option.some.inj (Option.some.inj (filed.symm.trans known))
  let datagram : Packet := .wrap (.udp ⟨⟨0⟩, ⟨0⟩, 10, 0⟩) (.unknown [1, 2])
  have found : tunnelDraft.plainBuild.inner? 2 = some datagram := rfl
  obtain ⟨part, own, inside, present, ownShown, insideShown, fields, whole, behind⟩ :=
    layers 2 datagram found
  obtain rfl : .wrap (.udp .initial) (.unknown [1, 2]) = part := Option.some.inj present
  have held : reached.Holds ⟨0, tunnelDraft.plainBuild⟩ := ⟨_, filed, Chain.mem_walk_self _⟩
  have member : datagram ∈ tunnelDraft.plainBuild.walk := List.mem_of_getElem? found
  have composed : datagram.Composed := library.packet.composed.inner member
  obtain rfl : own = datagram.plainBytes :=
    ownShown.eq (kept.shows_bytes (held.inner member) composed)
  obtain rfl : inside = [1, 2] := insideShown.eq
    (kept.shows_bytes ((held.inner member).inner (Chain.mem_walk_wrap (Chain.mem_walk_self _)))
      composed.2)
  obtain ⟨number, -⟩ := fields.datagram .initial rfl rfl (by decide)
  exact ⟨library, _, reached, frame, returned, shown, number, whole, behind⟩

end Encapsulation.Workbench
