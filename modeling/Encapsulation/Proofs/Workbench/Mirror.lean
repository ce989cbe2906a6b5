import Encapsulation.Proofs.Chain.Mirror
import Encapsulation.Proofs.Packet.Position
import Encapsulation.Proofs.Workbench.Regular

/-!
# Mirrored chains on a bench

Whatever a bench builds mirrors its builder, and so does the builder that it gives back: walks meet
the same kinds, and searches stop at the same positions, from every layer inwards.
-/
namespace Encapsulation.Workbench

variable {bench : Workbench}

/-- A sound bench builds a packet exactly if the builder is buildable, and then it is the packet
that the fields say. -/
theorem Sound.build_iff (sound : bench.Sound) (builder : Builder) :
    (builder.Buildable ↔ ∃ number reached, build builder bench = .ok number reached) ∧
      ∀ number reached, build builder bench = .ok number reached →
        reached.chains[number]? = some (some builder.plainBuild) := by
  obtain ⟨last, -, -, outcome⟩ := build_cases sound builder
  rcases outcome with ⟨buildable, returned, filed⟩ | ⟨unbuildable, cause, failed⟩
  · refine ⟨iff_of_true buildable ⟨_, last, returned⟩, fun number reached answered => ?_⟩
    obtain ⟨rfl, rfl⟩ := EStateM.Result.ok.inj (answered.symm.trans returned)
    exact filed
  · have never : ∀ number reached, build builder bench ≠ .ok number reached := by
      intro number reached answered
      cases answered.symm.trans failed
    exact ⟨iff_of_false unbuildable fun ⟨number, reached, answered⟩ =>
      never number reached answered,
      fun number reached answered => absurd answered (never number reached)⟩

/-- After any run from any store, a builder whose lengths can be had makes a packet, and whatever a
builder makes agrees with it: from every layer inwards, walks along the two meet all their layers,
which are of the same kinds, and searches by kind and by sorts of the library stop at the same
positions. Every layer of the packet agrees in the same way with the builder that it gives back. -/
theorem built_packets_mirror_builders (chains : Array (Option Packet)) (copies : Array Header)
    (history : List Operation) (builder : Builder) :
    let bench := run ⟨.initial, chains, copies⟩ history
    (builder.Buildable ↔ ∃ number reached, build builder bench = .ok number reached) ∧
      ∀ number reached, build builder bench = .ok number reached →
        ∃ packet, reached.chains[number]? = some (some packet) ∧
          builder.AgreesThroughout packet ∧
          ∀ inner : Packet, inner ∈ packet.walk → inner.AgreesThroughout inner.reopen := by
  intro bench
  obtain ⟨-, sound⟩ := run_leads (sound_start chains copies) history
  obtain ⟨builds, files⟩ := sound.build_iff builder
  refine ⟨builds, fun number reached returned => ?_⟩
  exact ⟨builder.plainBuild, files number reached returned,
    builder.mirrors_plainBuild.agreesThroughout,
    fun inner _ => inner.mirrors_reopen.agreesThroughout⟩

/-- A datagram in a datagram, in a layer of a kind below that of datagrams. -/
def nestedDraft : Builder :=
  .wrap (.custom ⟨.sub "Secure UDP" (.custom "secure") .udp, none, none, .measured⟩)
    (.wrap (.udp .initial) (.wrap (.udp .initial) (.unknown [1, 2])))

/-- The draft and the packet made of it have a datagram first by kind in the outermost layer, and
first by sort in the layer inside that one. -/
theorem nested_datagram_mirrors_draft :
    ∃ number reached packet, build nestedDraft .initial = .ok number reached ∧
      reached.chains[number]? = some (some packet) ∧
      nestedDraft.firstOf? .udp = some 0 ∧ packet.firstOf? .udp = some 0 ∧
      nestedDraft.firstOfSort? .udp = some 1 ∧ packet.firstOfSort? .udp = some 1 := by
  obtain ⟨builds, agree⟩ := built_packets_mirror_builders #[] #[] [] nestedDraft
  have inside : Builder.Buildable (.wrap (.udp .initial) (.unknown [1, 2])) :=
    ⟨trivial, fun _ => trivial, fun _ => by decide⟩
  have buildable : nestedDraft.Buildable :=
    ⟨⟨inside, fun _ => ⟨trivial, by decide⟩, fun _ => by decide⟩,
      ⟨fun asks => Bool.noConfusion asks, trivial⟩⟩
  obtain ⟨number, reached, returned⟩ := builds.mp buildable
  obtain ⟨packet, filed, same, -⟩ := agree number reached returned
  have byKind : nestedDraft.firstOf? .udp = some 0 := by decide
  have bySort : nestedDraft.firstOfSort? .udp = some 1 := by decide
  obtain ⟨missing, -⟩ | ⟨part, other, found, otherFound, agrees⟩ := same 0
  · cases missing
  · obtain rfl : nestedDraft = part := Option.some.inj found
    obtain rfl : packet = other := Option.some.inj (packet.inner?_zero.symm.trans otherFound)
    exact ⟨number, reached, packet, returned, filed, byKind, (agrees.first .udp).symm.trans byKind,
      bySort, (agrees.sorts .udp rfl).symm.trans bySort⟩

end Encapsulation.Workbench
