import Encapsulation.Proofs.Access.Regular
import Encapsulation.Proofs.Workbench.Coherence

/-!
# Regular packets on a bench

Nothing that is asked of a regular packet fails, whatever was asked before and whatever else is on
the bench: its views return, it can be compared with any packet, and builds of regular packets
return. The number of its bytes is its length at every layer, and so it is for every header.
-/
namespace Encapsulation.Workbench

variable {bench : Workbench}

/-- Nothing that a bench is asked about a packet fails, and lengths are numbers of bytes. -/
structure Serves (bench : Workbench) (target : Located) : Prop where
  /-- Every view of the packet returns. -/
  views : ∀ view, ∃ reached,
    read target view bench = .ok (target.packet.meaning view) reached
  /-- Every view of the header returns, if there is one. -/
  headers : ∀ view, ∃ reached,
    readHeader target view bench = .ok (target.packet.header?.map (·.meaning view)) reached
  /-- The length that is shown is the number of the bytes that are shown. -/
  counts : target.packet.meaning .length = (target.packet.meaning .bytes).length
  /-- The length of the header that is shown is the number of its bytes. -/
  headerCounts : ∀ header, target.packet.header? = some header →
    header.meaning .length = (header.meaning .bytes).length
  /-- Every packet on the bench can be compared with it. -/
  comparisons : ∀ other, bench.Holds other → ∃ verdict reached,
    equals other target bench = .ok verdict reached
  /-- Every header of a packet on the bench can be compared with its header. -/
  headerComparisons : ∀ other, bench.Holds other → ∃ verdict reached,
    headerEquals? other target bench = .ok verdict reached
  /-- It can be built anew. -/
  rebuilds : ∃ number reached, build target.packet.reopen bench = .ok number reached

/-- An action answers on a bench, unless there is nothing to do it with. -/
def Answers {α : Type} (bench : Workbench) (action : Use α) : Prop :=
  (∃ answer reached, action bench = .ok answer reached) ∨ action bench = .error .absent bench

/-- What is done with a located header answers if it does with every header, and with none. -/
theorem answers_locateHeader {α : Type} {action : Option (Object × Header) → Use α} (site : Site)
    (present : ∀ object header, bench.headerAt? object = some header →
      bench.Answers (action (some (object, header))))
    (headless : bench.Answers (action none)) : bench.Answers (locateHeader site >>= action) := by
  rcases locateHeader_cases bench site with ⟨object, header, known, -, found⟩ | bare | missing
  · have onward : (locateHeader site >>= action) bench = action (some (object, header)) bench := by
      simp only [Bind.bind, EStateM.bind, found]
    rw [Answers, onward]
    exact present object header known
  · have onward : (locateHeader site >>= action) bench = action none bench := by
      simp only [Bind.bind, EStateM.bind, bare]
    rw [Answers, onward]
    exact headless
  · refine .inr ?_
    simp only [Bind.bind, EStateM.bind, missing]

/-- A comparison of the headers at two sites of a sound bench answers. -/
theorem Sound.headersEqual_answers (sound : bench.Sound) (left right : Site) :
    bench.Answers (headersEqual left right) := by
  refine answers_locateHeader left (fun object header known => ?_) ?_
  · refine answers_locateHeader right (fun otherObject other otherKnown => ?_) (.inl ⟨_, _, rfl⟩)
    obtain ⟨reached, compared⟩ := sound.header_equals_returns known otherKnown
    refine .inl ⟨.verdict (header.plainEquals other), reached, ?_⟩
    simp only [Bind.bind, EStateM.bind, compared]
    rfl
  · exact answers_locateHeader right (fun _ _ _ => .inl ⟨_, _, rfl⟩) (.inl ⟨_, _, rfl⟩)

/-- A buildable builder makes its packet on a sound bench. -/
theorem Sound.build_returns {builder : Builder} (sound : bench.Sound)
    (buildable : builder.Buildable) :
    ∃ reached, build builder bench = .ok bench.chains.size reached ∧
      reached.chains[bench.chains.size]? = some (some builder.plainBuild) ∧
      bench.Becomes Set.univ reached ∧ reached.Sound := by
  obtain ⟨reached, change, kept, outcome⟩ := build_cases sound builder
  rcases outcome with ⟨-, returned, filed⟩ | ⟨unbuildable, -⟩
  · exact ⟨reached, returned, filed, change.mono (Set.subset_univ _), kept⟩
  · exact absurd buildable unbuildable

/-- A sound bench serves every regular packet whose lengths fit. -/
theorem Sound.serves {target : Located} (sound : bench.Sound) (held : bench.Holds target)
    (regular : target.packet.Regular) (fitting : target.packet.Fitting) :
    bench.Serves target where
  views view := by
    obtain ⟨reached, ⟨-, returned⟩ | ⟨unready, -⟩⟩ := sound.read_outcome held view
    · exact ⟨reached, returned⟩
    · exact absurd (regular.ready fitting _ view) unready
  headers view := sound.readHeader_returns held view
  counts := regular.agrees.symm
  headerCounts header _ := header.length_bytes.symm
  comparisons other otherHeld := by
    obtain ⟨reached, ⟨-, returned⟩ | ⟨unready, -⟩⟩ := sound.equals_outcome otherHeld held
    · exact ⟨_, reached, returned⟩
    · exact absurd (regular.equalsReady other.packet _) unready
  headerComparisons other otherHeld := ⟨_, sound.headerEquals?_returns otherHeld held⟩
  rebuilds := by
    obtain ⟨reached, returned, -⟩ := sound.build_returns
      (Builder.buildable_of_regular regular.reopen (fitting.reopen regular))
    exact ⟨bench.chains.size, reached, returned⟩

/-- From a store of any packets and copies of headers of which nothing is remembered, and after any
run of operations: nothing fails that is asked of a packet of regular layers whose lengths fit, and
its length is the number of its bytes; the same goes for every copy of a header; a comparison of
headers or copies answers wherever there is one; and a builder of such a packet makes it. -/
theorem regular_packets_are_served (chains : Array (Option Packet)) (copies : Array Header)
    (history : List Operation) :
    let bench := run ⟨.initial, chains, copies⟩ history
    (∀ target, bench.Holds target → target.packet.Regular → target.packet.Fitting →
        ∀ inner : Packet, inner ∈ target.packet.walk → bench.Serves ⟨target.chain, inner⟩) ∧
      (∀ (serial : Nat) (header : Header), bench.copies[serial]? = some header →
        (∀ view, ∃ reached, readCopy serial view bench = .ok (header.meaning view) reached) ∧
          header.meaning .length = (header.meaning .bytes).length) ∧
      (∀ left right : Site, bench.Answers (headersEqual left right)) ∧
      ∀ builder : Builder, builder.plainBuild.Regular → builder.plainBuild.Fitting →
        ∃ number reached, build builder bench = .ok number reached ∧
          reached.chains[number]? = some (some builder.plainBuild) := by
  intro bench
  obtain ⟨-, sound⟩ := run_leads (sound_start chains copies) history
  refine ⟨fun target held regular fitting inner member => ?_, fun serial header known => ?_,
    sound.headersEqual_answers, fun builder regular fitting => ?_⟩
  · exact sound.serves (held.inner member) (regular.inner member) (fitting.inner member)
  · exact ⟨fun view => sound.readCopy_returns known view, header.length_bytes.symm⟩
  · obtain ⟨reached, returned, filed, -⟩ :=
      sound.build_returns (Builder.buildable_of_regular regular fitting)
    exact ⟨_, reached, returned, filed⟩

/-- A datagram around a layer that measures bytes of its own, which are fewer than those inside. -/
def measuredDatagram : Packet :=
  .wrap (.udp ⟨⟨1⟩, ⟨2⟩, 0, 0⟩)
    (.wrap (.custom ⟨.root "Short" (.custom "short"), none, some [7], .measured⟩)
      (.unknown [1, 2, 3]))

/-- A bench serves it after its bytes have been shown. -/
theorem measured_datagram_is_served :
    measuredDatagram.Regular ∧ measuredDatagram.Fitting ∧
      (run ⟨.initial, #[some measuredDatagram], #[]⟩ [.read 0 1 .bytes]).Serves
        ⟨0, measuredDatagram⟩ := by
  have regular : measuredDatagram.Regular := ⟨.inr ⟨rfl, rfl⟩, .inl rfl, trivial⟩
  have fitting : measuredDatagram.Fitting := by
    intro inner member
    simp only [measuredDatagram, Chain.walk_wrap, Chain.walk_unknown, List.mem_cons,
      List.not_mem_nil, or_false] at member
    rcases member with rfl | rfl | rfl <;> decide
  have held : (run ⟨.initial, #[some measuredDatagram], #[]⟩ [.read 0 1 .bytes]).Holds
      ⟨0, measuredDatagram⟩ :=
    ⟨measuredDatagram, rfl, Chain.mem_walk_self _⟩
  exact ⟨regular, fitting,
    (regular_packets_are_served #[some measuredDatagram] #[] [.read 0 1 .bytes]).1
      ⟨0, measuredDatagram⟩ held regular fitting measuredDatagram (Chain.mem_walk_self _)⟩

end Encapsulation.Workbench
