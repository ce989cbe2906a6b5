import Encapsulation.Proofs.Builder.Context
import Encapsulation.Proofs.Workbench.Equality

/-!
# Equality under drafts on a bench

Packets that a bench builds under the same drafts of the library are judged equal if and only if the
packets built without these drafts are, whenever each of the four was built and whatever is
remembered of them.
-/
namespace Encapsulation.Workbench

variable {bench : Workbench} {operations : List Operation}

/-- One of some operations on a bench makes a packet out of a builder. -/
def Makes (bench : Workbench) (operations : List Operation) (builder : Builder)
    (target : Located) : Prop :=
  ∃ history later reached, operations = history ++ .build builder :: later ∧
    build builder (bench.run history) = .ok target.chain reached ∧
    reached.chains[target.chain]? = some (some target.packet)

/-- A packet that is made in a run on a sound bench is on the bench after the run, and is the one
that the fields of its builder say. -/
theorem Sound.makes {builder : Builder} {target : Located} (sound : bench.Sound)
    (made : bench.Makes operations builder target) :
    (bench.run operations).Holds target ∧ target.packet = builder.plainBuild := by
  obtain ⟨history, later, reached, rfl, returned, filed⟩ := made
  obtain ⟨-, before⟩ := run_leads sound history
  obtain ⟨built, -, kept, outcome⟩ := build_cases before builder
  rcases outcome with ⟨-, made, packet⟩ | ⟨-, cause, failed⟩
  · obtain ⟨number, rfl⟩ := EStateM.Result.ok.inj (returned.symm.trans made)
    have same : target.packet = builder.plainBuild := by
      rw [number, packet] at filed
      exact (Option.some.inj (Option.some.inj filed)).symm
    have held : reached.Holds target :=
      ⟨target.packet, filed, Chain.mem_walk_self _⟩
    have onward : bench.run (history ++ .build builder :: later) = reached.run later := by
      have step : (bench.run history).after (Operation.perform (.build builder)) = reached := by
        simp only [after, Operation.perform, Bind.bind, EStateM.bind, returned]
        rfl
      rw [run, List.foldl_append, List.foldl_cons]
      exact congrArg (run · later) step
    rw [onward]
    exact ⟨(run_leads kept later).1.holds held, same⟩
  · cases returned.symm.trans failed

/-- An operation that builds out of a buildable builder makes a packet in a run on a sound bench. -/
theorem Sound.exists_makes {builder : Builder} (sound : bench.Sound)
    (history later : List Operation) (buildable : builder.Buildable) :
    ∃ target, bench.Makes (history ++ .build builder :: later) builder target := by
  obtain ⟨-, before⟩ := run_leads sound history
  obtain ⟨reached, returned, filed, -⟩ := before.build_returns buildable
  exact ⟨⟨(bench.run history).chains.size, builder.plainBuild⟩, history, later, reached, rfl,
    returned, filed⟩

/-- From a store of any packets: builders of the library whose wire form has a length that fits make
packets at any time. Of packets that were made in a run out of two builders, and out of the same two
under some drafts of Ethernet, LLC/SNAP and UDP with any fields, pads and flags, those under the
drafts are judged to be equal or not, and so are those without; and the ones are judged equal if and
only if the others are. -/
theorem encapsulation_preserves_equality (chains : Array (Option Packet)) (copies : Array Header)
    (operations : List Operation) (drafts : List Draft)
    (drafted : ∀ draft ∈ drafts, draft.sort.isLibrary = true) (left right : Builder)
    (library : left.Library) (otherLibrary : right.Library) :
    let start : Workbench := ⟨.initial, chains, copies⟩
    let bench := start.run operations
    (∀ builder ∈ [left, right, left.under drafts, right.under drafts],
        builder.wire.length < UInt64.size → ∃ number reached,
          build builder bench = .ok number reached) ∧
      ∀ inner otherInner outer otherOuter : Located,
        start.Makes operations left inner → start.Makes operations right otherInner →
        start.Makes operations (left.under drafts) outer →
        start.Makes operations (right.under drafts) otherOuter →
          (bench.Judges inner otherInner true ∨ bench.Judges inner otherInner false) ∧
          (bench.Judges outer otherOuter true ∨ bench.Judges outer otherOuter false) ∧
          (bench.Judges outer otherOuter true ↔ bench.Judges inner otherInner true) := by
  intro start bench
  have started : start.Sound := sound_start chains copies
  obtain ⟨-, sound⟩ := run_leads started operations
  have outerLibrary : (left.under drafts).Library := library.under drafted
  have otherOuterLibrary : (right.under drafts).Library := otherLibrary.under drafted
  constructor
  · intro builder member fits
    have known : builder.Library := by
      simp only [List.mem_cons, List.not_mem_nil, or_false] at member
      rcases member with rfl | rfl | rfl | rfl <;> assumption
    obtain ⟨reached, returned, -⟩ := sound.build_returns
      (Builder.buildable_of_regular known.regular (known.fitting fits))
    exact ⟨_, reached, returned⟩
  · intro inner otherInner outer otherOuter made otherMade outerMade otherOuterMade
    obtain ⟨held, packet⟩ := started.makes made
    obtain ⟨otherHeld, otherPacket⟩ := started.makes otherMade
    obtain ⟨outerHeld, outerPacket⟩ := started.makes outerMade
    obtain ⟨otherOuterHeld, otherOuterPacket⟩ := started.makes otherOuterMade
    have composed : otherInner.packet.Composed := otherPacket ▸ otherLibrary.packet.composed
    have outerComposed : otherOuter.packet.Composed :=
      otherOuterPacket ▸ otherOuterLibrary.packet.composed
    refine ⟨sound.judges_total held otherHeld composed,
      sound.judges_total outerHeld otherOuterHeld outerComposed, ?_⟩
    rw [sound.judges_iff held otherHeld composed.regular,
      sound.judges_iff outerHeld otherOuterHeld outerComposed.regular, packet, otherPacket,
      outerPacket, otherOuterPacket]
    exact library.plainEquals_under_iff otherLibrary drafted

/-- Drafts of a frame with LLC and SNAP headers around a datagram. -/
def linkStack : List Draft :=
  [.ethernet { EthernetDraft.initial with etherType := .llc }, .llcSnap .initial, .udp .initial]

/-- Raw data that is built twice on its own and twice under these drafts is equal both times. -/
theorem stacked_data_is_equal :
    let data : Builder := .unknown [1, 2]
    let operations : List Operation :=
      [.build data, .build data, .build (data.under linkStack), .build (data.under linkStack)]
    let bench := run .initial operations
    ∃ inner otherInner outer otherOuter : Located,
      Makes .initial operations data inner ∧ Makes .initial operations data otherInner ∧
        Makes .initial operations (data.under linkStack) outer ∧
        Makes .initial operations (data.under linkStack) otherOuter ∧
        bench.Judges inner otherInner true ∧ bench.Judges outer otherOuter true := by
  intro data operations bench
  have drafted : ∀ draft ∈ linkStack, draft.sort.isLibrary = true := by decide
  have library : data.Library := by
    intro part member
    rw [List.mem_singleton.mp member]
    rfl
  have fits : (data.under linkStack).wire.length < UInt64.size := by decide
  have started : Sound .initial := sound_start #[] #[]
  have buildable : (data.under linkStack).Buildable :=
    Builder.buildable_of_regular (library.under drafted).regular
      ((library.under drafted).fitting fits)
  have dataBuildable : data.Buildable := trivial
  obtain ⟨inner, made⟩ := started.exists_makes [] (operations.drop 1) dataBuildable
  obtain ⟨otherInner, otherMade⟩ :=
    started.exists_makes (operations.take 1) (operations.drop 2) dataBuildable
  obtain ⟨outer, outerMade⟩ :=
    started.exists_makes (operations.take 2) (operations.drop 3) buildable
  obtain ⟨otherOuter, otherOuterMade⟩ := started.exists_makes (operations.take 3) [] buildable
  obtain ⟨-, judged⟩ := encapsulation_preserves_equality #[] #[] operations linkStack drafted data
    data library library
  obtain ⟨-, -, iff⟩ := judged inner otherInner outer otherOuter made otherMade outerMade
    otherOuterMade
  obtain ⟨-, sound⟩ := run_leads started operations
  obtain ⟨held, packet⟩ := started.makes made
  obtain ⟨otherHeld, otherPacket⟩ := started.makes otherMade
  have equal : bench.Judges inner otherInner true := by
    rw [sound.judges_iff held otherHeld (otherPacket ▸ library.regular), packet, otherPacket]
    exact data.plainBuild.plainEquals_self
  exact ⟨inner, otherInner, outer, otherOuter, made, otherMade, outerMade, otherOuterMade, equal,
    iff.mpr equal⟩

end Encapsulation.Workbench
