import Encapsulation.Proofs.Builder.Wire
import Encapsulation.Proofs.Workbench.Regular

/-!
# Wire form on a bench

What a bench builds out of the drafts of the library shows as its bytes the wire form of the
builder, then and later.
-/
namespace Encapsulation.Workbench

variable {bench : Workbench}

/-- The bytes of a packet that a sound bench built out of drafts of the library are the wire form
of its builder, whatever is done in between. -/
theorem Sound.built_reads_wire {builder : Builder} {number : Nat} {reached : Workbench}
    (sound : bench.Sound) (library : builder.Library)
    (returned : build builder bench = .ok number reached) :
    reached.chains[number]? = some (some builder.plainBuild) ∧
      ∀ later : List Operation, ∃ final,
        read ⟨number, builder.plainBuild⟩ .bytes (reached.run later) = .ok builder.wire final := by
  obtain ⟨built, -, kept, outcome⟩ := build_cases sound builder
  rcases outcome with ⟨-, made, filed⟩ | ⟨-, cause, failed⟩
  · obtain ⟨rfl, rfl⟩ := EStateM.Result.ok.inj (returned.symm.trans made)
    refine ⟨filed, fun later => ?_⟩
    have held : reached.Holds ⟨bench.chains.size, builder.plainBuild⟩ :=
      ⟨builder.plainBuild, filed, Chain.mem_walk_self _⟩
    obtain ⟨change, final⟩ := run_leads kept later
    obtain ⟨last, ⟨-, shown⟩ | ⟨unready, -⟩⟩ := final.read_outcome (change.holds held) .bytes
    · refine ⟨last, ?_⟩
      rw [shown, Packet.meaning, library.plainBytes_eq]
    · exact absurd (library.regular.bytesReady _) unready
  · cases returned.symm.trans failed

/-- After any run from any store, a builder of Ethernet, LLC/SNAP, UDP and raw data whose wire form
has a length that fits makes a packet; whenever it makes one, the bytes of the packet are the wire
form of the builder, at once and after any further operations. A frame that is filled up has sixty
bytes, or as many as its header and payload have, if those are more. -/
theorem built_packets_read_wire (chains : Array (Option Packet)) (copies : Array Header)
    (history : List Operation) (builder : Builder) (library : builder.Library) :
    let bench := run ⟨.initial, chains, copies⟩ history
    (builder.wire.length < UInt64.size →
        ∃ number reached, build builder bench = .ok number reached) ∧
      (∀ number reached, build builder bench = .ok number reached →
        ∃ packet, reached.chains[number]? = some (some packet) ∧
          ∀ later, ∃ final, read ⟨number, packet⟩ .bytes (reached.run later) =
            .ok builder.wire final) ∧
      ∀ draft : EthernetDraft, draft.padAtBuild = true →
        (builder = .bare (.ethernet draft) → builder.wire.length = 60) ∧
          ∀ payload : Builder, builder = .wrap (.ethernet draft) payload →
            builder.wire.length = max 60 (14 + payload.wire.length) := by
  intro bench
  obtain ⟨-, sound⟩ := run_leads (sound_start chains copies) history
  refine ⟨fun fits => ?_, fun number reached returned => ?_, fun draft padded => ⟨?_, ?_⟩⟩
  · obtain ⟨reached, returned, -⟩ := sound.build_returns
      (Builder.buildable_of_regular library.regular (library.fitting fits))
    exact ⟨_, reached, returned⟩
  · exact ⟨builder.plainBuild, sound.built_reads_wire library returned⟩
  · rintro rfl
    exact Draft.length_wire_padded padded []
  · rintro payload rfl
    exact Draft.length_wire_padded padded payload.wire

/-- Three bytes in a datagram, in a frame with LLC and SNAP headers. -/
def linkDraft : Builder :=
  .wrap (.ethernet ⟨.cdpMulticast, ⟨#v[0x02, 0x0a, 0x1b, 0x2c, 0x3d, 0x4e]⟩, .llc, [], true⟩)
    (.wrap (.llcSnap ⟨.snap, .stp, .unnumberedInformation, .cisco, .cdp⟩)
      (.wrap (.udp ⟨⟨0x1234⟩, .dns, 0, 0xbeef, true⟩) (.unknown [1, 2, 3])))

/-- The frame made of it: addresses and the length of what follows up to the pad; access points,
control, organisation and protocol; ports, length and checksum; the data; and a pad. -/
theorem link_frame_reads_wire :
    linkDraft.Library ∧ linkDraft.wire.length = 60 ∧
      ∃ number reached packet, build linkDraft .initial = .ok number reached ∧
        ∃ final, read ⟨number, packet⟩ .bytes reached = .ok
          ([0x01, 0x00, 0x0c, 0xcc, 0xcc, 0xcc, 0x02, 0x0a, 0x1b, 0x2c, 0x3d, 0x4e, 0x00, 0x13,
            0xaa, 0x42, 0x03, 0x00, 0x00, 0x0c, 0x20, 0x00,
            0x12, 0x34, 0x00, 0x35, 0x00, 0x0b, 0xbe, 0xef,
            0x01, 0x02, 0x03] ++ List.replicate 27 0x00) final := by
  have library : linkDraft.Library := by
    intro inner member
    simp only [linkDraft, Chain.walk_wrap, Chain.walk_unknown, List.mem_cons, List.not_mem_nil,
      or_false] at member
    rcases member with rfl | rfl | rfl | rfl <;> rfl
  obtain ⟨returns, reads, -⟩ := built_packets_read_wire #[] #[] [] linkDraft library
  have sixty : linkDraft.wire.length = 60 := by decide
  obtain ⟨number, reached, returned⟩ := returns (by rw [sixty]; decide)
  obtain ⟨packet, -, later⟩ := reads number reached returned
  exact ⟨library, sixty, number, reached, packet, returned, later []⟩

end Encapsulation.Workbench
