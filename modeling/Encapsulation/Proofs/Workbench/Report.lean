import Encapsulation.Proofs.Builder.Report
import Encapsulation.Proofs.Workbench.Closure
import Encapsulation.Proofs.Workbench.Failure
import Encapsulation.Proofs.Workbench.LengthField

/-!
# New packets on a bench

What a bench remembers of a packet of the library right after it was built, and what the build has
reported. Nothing is remembered but lengths, and those only inside a frame or inside a datagram that
works out its length field.
-/
namespace Encapsulation.Workbench

variable {bench reached : Workbench} {builder : Builder} {number : Nat}

/-- A closed bench that remembers the length of a packet of the library remembers those of its header
and its payload. -/
theorem Closed.lengthParts {target : Located} (closed : bench.Closed) (held : bench.Holds target)
    (library : target.packet.Library)
    (full : bench.Has (target.packet.object target.chain) .length) :
    bench.HasParts target .length := by
  cases outermost : target.packet.layer? with
  | none =>
    obtain ⟨chain, packet⟩ := target
    obtain ⟨data, rfl⟩ := Chain.eq_unknown_of_layer? outermost
    exact ⟨fun headed => (by cases headed), fun _ present => (by cases present)⟩
  | some layer =>
    have composed := Layer.composed_of_library (library.layer outermost)
    exact (closed.packet held).composedLength ⟨layer, outermost, composed.rules.1⟩ full

/-- A closed bench that remembers the length of a packet of the library remembers that of its
header. -/
theorem Closed.length_owned {chain : Nat} {packet : Packet} (closed : bench.Closed)
    (held : bench.Holds ⟨chain, packet⟩) (library : packet.Library)
    (full : bench.Has (packet.object chain) .length) {object : Object}
    (own : packet.Owns chain object) : bench.Has object .length := by
  rcases own with rfl | ⟨headed, rfl⟩
  · exact full
  · exact (closed.lengthParts held library full).header headed

/-- A closed bench that remembers the length of a packet of the library remembers those of all layers
and headers in it. -/
theorem Closed.lengths {chain : Nat} {packet : Packet} (closed : bench.Closed)
    (held : bench.Holds ⟨chain, packet⟩) (library : packet.Library)
    (full : bench.Has (packet.object chain) .length) {inner : Packet} (member : inner ∈ packet.walk)
    {object : Object} (own : inner.Owns chain object) : bench.Has object .length := by
  induction packet with
  | unknown data =>
    obtain rfl := List.mem_singleton.mp member
    exact closed.length_owned held library full own
  | bare layer =>
    obtain rfl := List.mem_singleton.mp member
    exact closed.length_owned held library full own
  | wrap layer payload ih =>
    rcases List.mem_cons.mp member with rfl | member
    · exact closed.length_owned held library full own
    · have within : payload ∈ Chain.walk (.wrap layer payload) :=
        Chain.mem_walk_wrap payload.mem_walk_self
      have inside := held.inner within
      have counted := (closed.lengthParts held library full).payload payload rfl
      exact ih inside library.2 counted member

/-- A build that returns has made the packet that the fields say, and has filed it. -/
theorem Sound.built (sound : bench.Sound) (returned : build builder bench = .ok number reached) :
    number = bench.chains.size ∧ reached.Sound ∧
      builder.build number [] bench.memory = .ok builder.plainBuild reached.memory ∧
      reached.chains[number]? = some (some builder.plainBuild) := by
  obtain ⟨after, -, kept, ⟨-, made, filed⟩ | ⟨-, cause, failed⟩⟩ := build_cases sound builder
  · obtain ⟨rfl, rfl⟩ := EStateM.Result.ok.inj (returned.symm.trans made)
    refine ⟨rfl, kept, ?_, filed⟩
    have applied := build_apply bench builder
    rw [returned] at applied
    cases outcome : builder.build bench.chains.size [] bench.memory with
    | error halt memory =>
      rw [outcome] at applied
      cases applied
    | ok packet memory =>
      rw [outcome] at applied
      obtain ⟨-, rfl⟩ := EStateM.Result.ok.inj applied
      rw [Array.getElem?_push_size] at filed
      obtain rfl : packet = builder.plainBuild := Option.some.inj (Option.some.inj filed)
      rfl
  · cases returned.symm.trans failed

/-- A length that a sound bench remembers is shown. -/
theorem Sound.shows_length {target : Located} (sound : bench.Sound) (held : bench.Holds target)
    (full : bench.Has (target.packet.object target.chain) .length) :
    bench.Shows target .length target.packet.plainLength := by
  obtain ⟨value, content⟩ := Option.isSome_iff_exists.mp full
  obtain rfl : value = target.packet.plainLength :=
    sound.coherent _ value _ content (held.denoted.view .length)
  intro later
  exact ⟨_, (sound.recalls later).packets target held .length (by decide) _ content⟩

/-- What is left when a builder of the library has made its packet on a sound bench: the packet has
been reported, and the lengths that drafts asked for are remembered. -/
theorem Sound.build_leaves (sound : bench.Sound) (library : builder.Library)
    (returned : build builder bench = .ok number reached) :
    reached.memory.events.toList = bench.memory.events.toList ++ builder.plainBuild.reports ∧
      ∀ (draft : Draft) (payload : Builder), .wrap draft payload ∈ builder.walk →
        draft.asksLength = true → reached.Has (payload.plainBuild.object number) .length := by
  obtain ⟨rfl, -, built, -⟩ := sound.built returned
  exact library.build_leaves (denoted_push_chain bench builder.plainBuild)
    (fun _ _ => sound.fresh _ (not_issued_of_next rfl))
    (sound.coherent_push_chain (some builder.plainBuild)) built

/-- Of a packet that was made on a sound and closed bench, exactly the lengths that drafts asked for
are remembered. -/
theorem Sound.has_iff_asked (sound : bench.Sound) (closed : bench.Closed) (library : builder.Library)
    (returned : build builder bench = .ok number reached) {layer : Packet} {object : Object}
    (own : layer.Owns number object) {view : View} :
    reached.Has object view ↔ ⟨object, view⟩ ∈ builder.asked number := by
  have lengths := (sound.build_leaves library returned).2
  obtain ⟨rfl, -, built, filed⟩ := sound.built returned
  have left : bench.after (build builder) = reached := by rw [after, returned]
  have closedStill : reached.Closed := left ▸ closed.build sound builder
  have held : reached.Holds ⟨bench.chains.size, builder.plainBuild⟩ :=
    ⟨builder.plainBuild, filed, Chain.mem_walk_self _⟩
  constructor
  · intro full
    have new : object.chain? = some bench.chains.size := by
      rcases own with rfl | ⟨-, rfl⟩ <;> rfl
    refine library.mem_asked_of_filled (denoted_push_chain bench builder.plainBuild)
      (fun _ _ => sound.fresh _ (not_issued_of_next rfl))
      (sound.coherent_push_chain (some builder.plainBuild))
      (sound.fresh ⟨object, view⟩ (not_issued_of_next new)) ?_
    rw [Memo.Eval.perform, built]
    exact full
  · rintro ⟨rfl, draft, payload, member, asks, inner, inside, owned⟩
    have within : payload.plainBuild ∈ builder.plainBuild.walk := by
      rw [Builder.walk_plainBuild]
      exact List.mem_map_of_mem
        (Chain.mem_walk_trans member (Chain.mem_walk_wrap payload.mem_walk_self))
    exact closedStill.lengths (held.inner within) (library.packet.inner within)
      (lengths draft payload member asks) inside owned

/-- From a store of any packets and copies of headers of which nothing is remembered, after a run of
any operations, a builder of Ethernet, LLC/SNAP, UDP and raw data makes a packet if its wire form has
a length that fits. Whenever it makes one, nothing is remembered of the layers and headers of the new
packet but lengths, and of those exactly the ones inside a layer that asks for the length of its
payload. The build reports each layer but raw data once: a frame and a datagram after all that is
inside, and LLC and SNAP before. What is reported of a frame is the length that its payload shows. -/
theorem builds_ask_and_report (chains : Array (Option Packet)) (copies : Array Header)
    (history : List Operation) (builder : Builder) (library : builder.Library) :
    let bench := run ⟨.initial, chains, copies⟩ history
    (builder.wire.length < UInt64.size →
        ∃ number reached, build builder bench = .ok number reached) ∧
      ∀ number reached, build builder bench = .ok number reached →
        reached.chains[number]? = some (some builder.plainBuild) ∧
          (∀ position layer, builder.plainBuild.inner? position = some layer →
            ∀ object, Packet.Owns number layer object → ∀ view,
              (reached.Has object view ↔ view = .length ∧ builder.AsksAbove position)) ∧
          reached.memory.events.toList =
            bench.memory.events.toList ++ builder.plainBuild.reports ∧
          builder.plainBuild.reports.length =
            builder.plainBuild.walk.countP (fun inner => inner.layer?.isSome) ∧
          ∀ position header pad (payload : Packet),
            builder.plainBuild.inner? position = some (.wrap (.ethernet header pad) payload) →
              reached.Shows ⟨number, payload⟩ .length payload.plainLength := by
  intro bench
  have started : Sound ⟨.initial, chains, copies⟩ := sound_start chains copies
  obtain ⟨-, sound⟩ := run_leads started history
  have closed : bench.Closed := (closed_start chains copies).run started history
  constructor
  · intro fits
    obtain ⟨reached, returned, -⟩ := sound.build_returns
      (Builder.buildable_of_regular library.regular (library.fitting fits))
    exact ⟨_, reached, returned⟩
  intro number reached returned
  obtain ⟨events, lengths⟩ := sound.build_leaves library returned
  obtain ⟨-, kept, -, filed⟩ := sound.built returned
  have held : reached.Holds ⟨number, builder.plainBuild⟩ :=
    ⟨builder.plainBuild, filed, Chain.mem_walk_self _⟩
  have cells : ∀ position layer, builder.plainBuild.inner? position = some layer →
      ∀ object, Packet.Owns number layer object → ∀ view,
        (reached.Has object view ↔ view = .length ∧ builder.AsksAbove position) := by
    intro position layer found object own view
    rw [sound.has_iff_asked closed library returned own, Builder.mem_asked_iff found own]
  refine ⟨filed, cells, events, library.packet.length_reports, ?_⟩
  intro position header pad payload found
  obtain ⟨draft, inside, member, rfl⟩ := Builder.wrap_of_frame found
  have within := (held.inner (List.mem_of_getElem? found)).inner
    (Chain.mem_walk_wrap (Chain.mem_walk_self inside.plainBuild))
  exact kept.shows_length within (lengths (.ethernet draft) inside member rfl)

/-- Two bytes in a frame, in a datagram whose length field is given, behind an LLC and SNAP header. -/
def relayDraft : Builder :=
  .wrap (.llcSnap .initial)
    (.wrap (.udp { UdpDraft.initial with correctLength := false })
      (.wrap (.ethernet .initial) (.unknown [1, 2])))

/-- When it has been built, the length of the data is remembered and no other one, and the frame has
been reported after the LLC and SNAP header and before the datagram. -/
theorem relayed_frame_is_reported :
    relayDraft.Library ∧ ∃ number reached, build relayDraft .initial = .ok number reached ∧
      (∀ view, reached.Has (.packet number 1) view ↔ view = .length) ∧
      (∀ view, ¬ reached.Has (.header number 2) view) ∧
      (∀ view, ¬ reached.Has (.packet number 4) view) ∧
      reached.memory.events.toList =
        [.snapBuilt ⟨0⟩, .frameBuilt .ipv4 2 44, .datagramBuilt ⟨0⟩ ⟨0⟩ 0] := by
  have library : relayDraft.Library := by
    intro inner member
    simp only [relayDraft, Chain.walk_wrap, Chain.walk_unknown, List.mem_cons, List.not_mem_nil,
      or_false] at member
    rcases member with rfl | rfl | rfl | rfl <;> rfl
  obtain ⟨returns, reports⟩ := builds_ask_and_report #[] #[] [] relayDraft library
  obtain ⟨number, reached, returned⟩ := returns (by decide)
  obtain ⟨-, cells, events, -⟩ := reports number reached returned
  let frame : Packet := .wrap (.ethernet ⟨.zero, .zero, .ipv4, 0x0800⟩ (List.replicate 44 0))
    (.unknown [1, 2])
  have quiet : ∀ position < 3, ¬ relayDraft.AsksAbove position := by
    rintro position below ⟨outer, lt, part, draft, present, outermost, asks⟩
    have early : outer = 0 ∨ outer = 1 := by omega
    rcases early with rfl | rfl <;> cases present <;> cases outermost <;> cases asks
  have asked : relayDraft.AsksAbove 3 := ⟨2, by decide, _, .ethernet .initial, rfl, rfl, rfl⟩
  refine ⟨library, number, reached, returned, fun view => ?_, fun view => ?_, fun view => ?_, events⟩
  · rw [cells 3 (.unknown [1, 2]) rfl (.packet number 1) (.inl rfl) view, and_iff_left asked]
  · rw [cells 2 frame rfl (.header number 2) (.inr ⟨rfl, rfl⟩) view]
    exact fun both => quiet 2 (by decide) both.2
  · rw [cells 0 relayDraft.plainBuild rfl (.packet number 4) (.inl rfl) view]
    exact fun both => quiet 0 (by decide) both.2

end Encapsulation.Workbench
