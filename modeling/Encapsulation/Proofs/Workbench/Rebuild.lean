import Encapsulation.Proofs.Builder.Reopen
import Encapsulation.Proofs.Workbench.Regular

/-!
# Rebuilding packets on a bench

Every packet on a bench that started empty was made by a builder. So the builder that it gives back
makes it again, whatever it remembers by then, and the two cannot be told apart.
-/
namespace Encapsulation

/-- A layer inside a packet that was made by a builder was made by the builder inside that one. -/
theorem Builder.Buildable.inner {builder : Builder} {inner : Packet}
    (buildable : builder.Buildable) (member : inner ∈ builder.plainBuild.walk) :
    ∃ part : Builder, part.Buildable ∧ part.plainBuild = inner := by
  induction builder with
  | unknown data =>
    obtain rfl := List.mem_singleton.mp member
    exact ⟨.unknown data, buildable, rfl⟩
  | bare draft =>
    obtain rfl := List.mem_singleton.mp member
    exact ⟨.bare draft, buildable, rfl⟩
  | wrap draft payload ih =>
    rcases List.mem_cons.mp member with rfl | member
    · exact ⟨.wrap draft payload, buildable, rfl⟩
    · exact ih buildable.1 member

namespace Workbench

variable {bench : Workbench}

/-- Every packet on a bench was made by a builder. -/
def Made (bench : Workbench) : Prop :=
  ∀ target, bench.Holds target → ∃ builder : Builder,
    builder.Buildable ∧ builder.plainBuild = target.packet

/-- Two packets on a bench are equal from both sides, and every view of them means the same. -/
structure Twins (bench : Workbench) (left right : Located) : Prop where
  /-- The first counts as equal to the second. -/
  forward : ∃ reached, equals left right bench = .ok true reached
  /-- The second counts as equal to the first. -/
  backward : ∃ reached, equals right left bench = .ok true reached
  /-- Every view of the second means what it means for the first. -/
  meanings : ∀ view, right.packet.meaning view = left.packet.meaning view

/-- After any run from the empty bench, every packet was made by a builder. -/
theorem made_run (history : List Operation) : (run .initial history).Made := by
  obtain ⟨change, -⟩ := run_leads (sound_start #[] #[]) history
  rintro target ⟨root, known, member⟩
  rcases change.made target.chain root known with before | ⟨builder, buildable, rfl⟩
  · simp at before
  · exact buildable.inner member

/-- Two packets of the same fields are twins on a sound bench. -/
theorem Sound.twins {left right : Located} (sound : bench.Sound) (held : bench.Holds left)
    (otherHeld : bench.Holds right) (same : left.packet = right.packet) :
    bench.Twins left right := by
  have compared : ∀ {left right : Located}, bench.Holds left → bench.Holds right →
      left.packet = right.packet → ∃ reached, equals left right bench = .ok true reached := by
    intro left right held otherHeld same
    obtain ⟨reached, ⟨-, returned⟩ | ⟨unready, -⟩⟩ := sound.equals_outcome held otherHeld
    · rw [same, Packet.plainEquals_self] at returned
      exact ⟨reached, returned⟩
    · exact absurd (same ▸ Packet.equalsReady_self right.chain _ left.packet) unready
  exact ⟨compared held otherHeld same, compared otherHeld held same.symm,
    fun view => congrArg (Packet.meaning · view) same.symm⟩

/-- On a sound bench, the builder that a packet made by a builder gives back makes it again. -/
theorem Sound.rebuild_returns {builder : Builder} (sound : bench.Sound)
    (buildable : builder.Buildable) :
    ∃ number reached, build builder.plainBuild.reopen bench = .ok number reached ∧
      reached.chains[number]? = some (some builder.plainBuild) ∧
      bench.Becomes Set.univ reached ∧ reached.Sound := by
  obtain ⟨reached, returned, filed, change, kept⟩ := sound.build_returns buildable.reopen
  rw [Builder.plainBuild_reopen] at filed
  exact ⟨_, reached, returned, filed, change, kept⟩

/-- After any run from the empty bench, whatever is remembered by then, the builder that a packet
gives back makes a packet. The two are equal from both sides at any time later, no comparison
fails, and every view means the same for both. The new packet can be rebuilt in turn, and the
third one is equal to both as well. -/
theorem rebuilt_packets_are_twins (history : List Operation) (target : Located)
    (held : (run .initial history).Holds target) :
    ∃ number reached copy,
      build target.packet.reopen (run .initial history) = .ok number reached ∧
      reached.chains[number]? = some (some copy) ∧
      ∀ later : List Operation, (reached.run later).Twins target ⟨number, copy⟩ ∧
        ∃ next last third,
          build copy.reopen (reached.run later) = .ok next last ∧
          last.chains[next]? = some (some third) ∧
          ∀ latest : List Operation, (last.run latest).Twins target ⟨next, third⟩ ∧
            (last.run latest).Twins ⟨number, copy⟩ ⟨next, third⟩ := by
  obtain ⟨-, sound⟩ := run_leads (sound_start #[] #[]) history
  obtain ⟨builder, buildable, same⟩ := made_run history target held
  obtain ⟨number, reached, returned, filed, change, kept⟩ := sound.rebuild_returns buildable
  rw [same] at returned filed
  have copied : reached.Holds ⟨number, target.packet⟩ :=
    ⟨target.packet, filed, Chain.mem_walk_self _⟩
  refine ⟨number, reached, target.packet, returned, filed, fun later => ?_⟩
  obtain ⟨onward, keptLater⟩ := run_leads kept later
  have heldLater := onward.holds (change.holds held)
  have copiedLater := onward.holds copied
  refine ⟨keptLater.twins heldLater copiedLater rfl, ?_⟩
  obtain ⟨next, last, again, filedAgain, changeAgain, keptAgain⟩ :=
    keptLater.rebuild_returns buildable
  rw [same] at again filedAgain
  have third : last.Holds ⟨next, target.packet⟩ :=
    ⟨target.packet, filedAgain, Chain.mem_walk_self _⟩
  refine ⟨next, last, target.packet, again, filedAgain, fun latest => ?_⟩
  obtain ⟨final, keptFinal⟩ := run_leads keptAgain latest
  have heldFinal := final.holds (changeAgain.holds heldLater)
  have copiedFinal := final.holds (changeAgain.holds copiedLater)
  exact ⟨keptFinal.twins heldFinal (final.holds third) rfl,
    keptFinal.twins copiedFinal (final.holds third) rfl⟩

/-- A datagram in a frame of two drafts that work everything out. -/
def frameDraft : Builder :=
  .wrap (.ethernet .initial) (.wrap (.udp .initial) (.unknown [1, 2, 3]))

/-- The frame made of it, whose length was asked for, is rebuilt. -/
theorem rebuilt_frame_is_twin :
    (run .initial [.build frameDraft, .read 0 0 .length]).Holds ⟨0, frameDraft.plainBuild⟩ ∧
      ∃ number reached copy,
        build frameDraft.plainBuild.reopen (run .initial [.build frameDraft, .read 0 0 .length]) =
          .ok number reached ∧
        reached.Twins ⟨0, frameDraft.plainBuild⟩ ⟨number, copy⟩ := by
  have held : (run .initial [.build frameDraft, .read 0 0 .length]).Holds
      ⟨0, frameDraft.plainBuild⟩ :=
    ⟨frameDraft.plainBuild, rfl, Chain.mem_walk_self _⟩
  obtain ⟨number, reached, copy, returned, -, later⟩ := rebuilt_packets_are_twins _ _ held
  exact ⟨held, number, reached, copy, returned, (later []).1⟩

end Workbench

end Encapsulation
