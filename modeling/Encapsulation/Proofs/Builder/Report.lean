import Encapsulation.Proofs.Access.Silence
import Encapsulation.Proofs.Builder.Unfold

/-!
# What a build reports and leaves remembered

A build of a packet of the library reports each frame and each datagram after what is inside it, and
each LLC and SNAP header before. Beside that it only asks for lengths: a draft that depends on the
length of its payload asks for it, and with it the lengths of all layers and headers inside are
remembered.
-/
namespace Encapsulation

open Memo (Canon)
open Memo.Eval (Unfolds bind_eq_ok)
open Relation (ReflTransGen)

namespace Layer

/-- What is reported before the payload of a layer is built. -/
def announcement : Layer → List Event
  | llcSnap header => [.snapBuilt header.protocol]
  | _ => []

/-- What is reported after the payload of a layer was built, given its length. -/
def conclusion (layer : Layer) (payloadLength : Nat) : List Event :=
  match layer with
  | ethernet header pad => [.frameBuilt header.etherType payloadLength pad.length]
  | udp header => [.datagramBuilt header.source header.destination header.length]
  | _ => []

end Layer

/-- An object is that of a packet or that of its header. -/
def Packet.Owns (chain : Nat) (packet : Packet) (object : Object) : Prop :=
  object = packet.object chain ∨
    packet.header?.isSome = true ∧ object = packet.headerObject chain

/-- The objects of a packet and of its header are as deep as the packet. -/
theorem Packet.Owns.depth_eq {chain : Nat} {packet : Packet} {object : Object}
    (own : packet.Owns chain object) : object.depth = packet.depth := by
  rcases own with rfl | ⟨-, rfl⟩
  · rfl
  · rfl

/-- What is reported while a packet is built, in order. -/
def Packet.reports : Packet → List Event
  | .unknown _ => []
  | .bare layer => layer.announcement ++ layer.conclusion 0
  | .wrap layer payload =>
    layer.announcement ++ reports payload ++ layer.conclusion (plainLength payload)

namespace Packet

/-- For a packet of the library there is one report for each layer that is not raw data. -/
theorem Library.length_reports {packet : Packet} (library : packet.Library) :
    packet.reports.length = packet.walk.countP fun inner => inner.layer?.isSome := by
  have once : ∀ {layer : Layer}, layer.sort.isLibrary = true → ∀ length,
      layer.announcement.length + (layer.conclusion length).length = 1 := by
    intro layer known length
    cases layer with
    | custom fields => exact absurd known (Layer.not_library_custom fields)
    | _ => rfl
  induction packet with
  | unknown data => rfl
  | bare layer =>
    rw [reports, List.length_append]
    exact once library 0
  | wrap layer payload ih =>
    have own := once library.1 (plainLength payload)
    rw [Chain.walk_wrap, List.countP_cons_of_pos rfl, ← ih library.2, reports, List.length_append,
      List.length_append]
    omega

end Packet

namespace Draft

variable {draft : Draft} {computing : List Cell} {before after : Memory}

/-- What a draft reports before its payload is built is the announcement of the layer it becomes. -/
theorem announce_logs (length : Nat) (returned : draft.announce computing before = .ok () after) :
    after.events.toList = before.events.toList ++ (draft.plainFinish length).announcement := by
  cases draft with
  | llcSnap header =>
    obtain ⟨-, rfl⟩ := EStateM.Result.ok.inj returned
    exact Array.toList_push
  | ethernet draft | udp draft | custom draft =>
    obtain ⟨-, rfl⟩ := EStateM.Result.ok.inj returned
    exact (List.append_nil _).symm

/-- What a draft reports after its payload was built is the conclusion of the layer it becomes, if
asking for the length of the payload gives the length and reports nothing. -/
theorem finish_logs {payloadLength : Access Nat} {length : Nat}
    (asked : ∀ count middle, payloadLength computing before = .ok count middle →
      count = length ∧ middle.events = before.events)
    (returned : draft.finish payloadLength computing before =
      .ok (draft.plainFinish length) after) :
    after.events.toList =
      before.events.toList ++ (draft.plainFinish length).conclusion length := by
  cases draft with
  | ethernet draft =>
    obtain ⟨count, middle, answered, reported⟩ := bind_eq_ok.mp returned
    obtain ⟨rfl, silent⟩ := asked count middle answered
    obtain ⟨-, rfl⟩ := EStateM.Result.ok.inj reported
    rw [Array.toList_push, silent]
    rfl
  | udp draft =>
    rw [finish_udp] at returned
    obtain ⟨field, middle, worked, reported⟩ := bind_eq_ok.mp returned
    obtain ⟨made, rfl⟩ := EStateM.Result.ok.inj reported
    have silent : middle.events = before.events := by
      by_cases corrected : draft.correctLength = true
      · rw [if_pos corrected] at worked
        obtain ⟨count, reached, answered, summed⟩ := bind_eq_ok.mp worked
        rw [map_eq_pure_bind] at summed
        obtain ⟨sum, state, added, given⟩ := bind_eq_ok.mp summed
        obtain ⟨-, rfl⟩ := EStateM.Result.ok.inj given
        obtain rfl := Packet.memory_of_addLengths added
        exact (asked count _ answered).2
      · rw [if_neg corrected] at worked
        obtain ⟨-, rfl⟩ := EStateM.Result.ok.inj worked
        rfl
    rw [← made, Array.toList_push, silent]
    rfl
  | llcSnap header | custom layer =>
    obtain ⟨-, rfl⟩ := EStateM.Result.ok.inj returned
    exact (List.append_nil _).symm

end Draft

namespace Packet

variable {canon : Canon Cell Cell.Value} {chain : Nat} {packet : Packet} {before after : Memory}

/-- What is left when a draft became a layer around a packet of the library: nothing is lost, the
conclusion of the layer is reported, and the length of the packet is remembered if the draft asked
for it. -/
theorem Library.finish_leaves (library : packet.Library) (denoted : packet.Denoted canon chain)
    (coherent : before.bank.Coherent canon) {draft : Draft}
    (returned : draft.finish (length chain packet) [] before =
      .ok (draft.plainFinish packet.plainLength) after) :
    after.events.toList = before.events.toList ++
        (draft.plainFinish packet.plainLength).conclusion packet.plainLength ∧
      (∀ cell, before.bank.isFilled cell = true → after.bank.isFilled cell = true) ∧
      (draft.asksLength = true →
        after.bank.isFilled ⟨packet.object chain, .length⟩ = true) := by
  have calm : Unfolds Calm (length chain packet) before
      fun _ bank => bank.isFilled ⟨packet.object chain, .length⟩ = true :=
    library.length_unfolds (Calm.admits chain packet .length) before
  have asked : ∀ count middle, length chain packet [] before = .ok count middle →
      count = packet.plainLength ∧ middle.events = before.events := by
    intro count middle answered
    obtain ⟨-, same, -, -⟩ :=
      (length_meets denoted).of_eq_ok (List.forall_mem_nil _) coherent answered
    exact ⟨same, Silent.many (library.length_silent before |>.of_eq_ok answered).1⟩
  refine ⟨Draft.finish_logs asked returned, ?_⟩
  rcases Draft.finish_eq_ok returned with ⟨-, count, middle, answered, same⟩ | ⟨silent, same⟩
  · obtain ⟨steps, -, filled⟩ := calm.of_eq_ok answered
    rw [same]
    exact ⟨fun cell full => Retains.many (Calm.admits chain packet .length).retains steps full,
      fun _ => filled⟩
  · rw [same]
    exact ⟨fun cell full => full, fun asks => by cases silent.symm.trans asks⟩

end Packet

namespace Builder

variable {canon : Canon Cell Cell.Value} {chain : Nat} {builder : Builder} {before after : Memory}

/-- What is left when a builder of the library has made its packet under a chain number of which no
cell is filled: the reports of the packet, and every length that a draft asked for. -/
theorem Library.build_leaves (library : builder.Library)
    (denoted : builder.plainBuild.Denoted canon chain)
    (empty : ∀ depth view, before.bank.get? ⟨.packet chain depth, view⟩ = none)
    (coherent : before.bank.Coherent canon)
    (built : builder.build chain [] before = .ok builder.plainBuild after) :
    after.events.toList = before.events.toList ++ builder.plainBuild.reports ∧
      ∀ (draft : Draft) (payload : Builder), .wrap draft payload ∈ builder.walk →
        draft.asksLength = true →
          after.bank.isFilled ⟨payload.plainBuild.object chain, .length⟩ = true := by
  induction builder generalizing before after with
  | unknown data =>
    obtain ⟨-, rfl⟩ := EStateM.Result.ok.inj built
    refine ⟨(List.append_nil _).symm, fun draft payload member => ?_⟩
    cases List.mem_singleton.mp member
  | bare draft =>
    obtain ⟨_, reported, announced, rest⟩ := bind_eq_ok.mp built
    obtain ⟨layer, last, finished, given⟩ := bind_eq_ok.mp rest
    obtain ⟨made, rfl⟩ := EStateM.Result.ok.inj given
    obtain rfl : layer = draft.plainFinish 0 := Chain.bare.inj made
    have nothing : ∀ count middle, (pure 0 : Access Nat) [] reported = .ok count middle →
        count = 0 ∧ middle.events = reported.events := by
      intro count middle answered
      obtain ⟨rfl, rfl⟩ := EStateM.Result.ok.inj answered
      exact ⟨rfl, rfl⟩
    refine ⟨?_, fun other payload member => by cases List.mem_singleton.mp member⟩
    rw [Draft.finish_logs nothing finished, Draft.announce_logs 0 announced, List.append_assoc]
    rfl
  | wrap draft payload ih =>
    obtain ⟨_, reported, announced, rest⟩ := bind_eq_ok.mp built
    obtain ⟨inside, middle, builtInside, rest⟩ := bind_eq_ok.mp rest
    obtain ⟨layer, last, finished, given⟩ := bind_eq_ok.mp rest
    obtain ⟨made, rfl⟩ := EStateM.Result.ok.inj given
    obtain ⟨rfl, rfl⟩ := Chain.wrap.inj made
    obtain ⟨again, same, unchanged⟩ := draft.announce_returns before
    obtain rfl : reported = again := (EStateM.Result.ok.inj (announced.symm.trans same)).2
    have emptyStill : ∀ depth view, reported.bank.get? ⟨.packet chain depth, view⟩ = none :=
      fun depth view => unchanged ▸ empty depth view
    have coherentStill : reported.bank.Coherent canon := unchanged ▸ coherent
    obtain ⟨events, lengths⟩ :=
      ih library.payload denoted.payload emptyStill coherentStill builtInside
    have coherentInside : middle.bank.Coherent canon := by
      obtain ⟨other, -, kept, ⟨-, returned, -⟩ | ⟨-, cause, interrupted, failed⟩⟩ :=
        build_outcome denoted.payload emptyStill coherentStill
      · exact (EStateM.Result.ok.inj (builtInside.symm.trans returned)).2 ▸ kept
      · cases builtInside.symm.trans failed
    obtain ⟨concluded, keeps, asked⟩ :=
      library.payload.packet.finish_leaves denoted.payload coherentInside finished
    constructor
    · rw [concluded, events, Draft.announce_logs (Packet.plainLength (plainBuild payload)) announced,
        plainBuild, Packet.reports]
      simp only [List.append_assoc]
    · intro other inner member asks
      rcases List.mem_cons.mp member with same | member
      · obtain ⟨rfl, rfl⟩ := Chain.wrap.inj same
        exact asked asks
      · exact keeps _ (lengths other inner member asks)

/-- A frame in the packet made of a builder is made of an Ethernet draft in the builder, and what is
inside the frame of what is inside the draft. -/
theorem wrap_of_frame {header : EthernetHeader} {pad : Bytes} {payload : Packet} {position : Nat}
    (found : builder.plainBuild.inner? position = some (.wrap (.ethernet header pad) payload)) :
    ∃ (draft : EthernetDraft) (inside : Builder),
      .wrap (.ethernet draft) inside ∈ builder.walk ∧ inside.plainBuild = payload := by
  obtain ⟨part, present, made⟩ := inner?_plainBuild found
  cases part with
  | unknown data => cases made
  | bare draft => cases made
  | wrap draft inside =>
    obtain ⟨layer, same⟩ := Chain.wrap.inj made
    cases draft with
    | ethernet draft => exact ⟨draft, inside, List.mem_of_getElem? present, same⟩
    | llcSnap header => cases layer
    | udp draft => cases layer
    | custom fields => cases layer

/-- Some layer outside a position asks for the length of its payload when it is built. -/
def AsksAbove (builder : Builder) (position : Nat) : Prop :=
  ∃ outer < position, ∃ (part : Builder) (draft : Draft), builder.inner? outer = some part ∧
    part.layer? = some draft ∧ draft.asksLength = true

/-- The cells of the lengths inside the layers that ask for the length of their payload. -/
def asked (chain : Nat) (builder : Builder) : Set Cell :=
  { cell | cell.view = .length ∧ ∃ (draft : Draft) (payload : Builder),
    .wrap draft payload ∈ builder.walk ∧ draft.asksLength = true ∧
      ∃ inner : Packet, inner ∈ payload.plainBuild.walk ∧ inner.Owns chain cell.object }

/-- Of the cells of a layer, exactly those of lengths are asked for, and only if some layer outside
asks. -/
theorem mem_asked_iff {position : Nat} {layer : Packet}
    (found : builder.plainBuild.inner? position = some layer) {object : Object}
    (own : layer.Owns chain object) {view : View} :
    ⟨object, view⟩ ∈ builder.asked chain ↔ view = .length ∧ builder.AsksAbove position := by
  refine and_congr_right fun _ => ?_
  constructor
  · rintro ⟨draft, payload, member, asks, inner, inside, alike⟩
    obtain ⟨outer, present⟩ := List.mem_iff_getElem?.mp member
    -- The layer is as deep as one inside the payload, so it lies further inwards than the draft.
    have within := Chain.depth_le_of_mem_walk inside
    rw [depth_plainBuild, ← alike.depth_eq, own.depth_eq] at within
    have outside : payload.depth + 1 + outer = builder.depth := Chain.depth_of_inner? present
    have place := Chain.depth_of_inner? found
    rw [depth_plainBuild] at place
    exact ⟨outer, by omega, _, draft, present, rfl, asks⟩
  · rintro ⟨outer, lt, part, draft, present, outermost, asks⟩
    have made : builder.plainBuild.inner? outer = some (plainBuild part) := by
      rw [Chain.inner?, walk_plainBuild, List.getElem?_map]
      exact congrArg (Option.map plainBuild) present
    obtain ⟨around, payload, same, inside⟩ := Chain.mem_walk_of_lt made found lt
    cases part with
    | unknown data => cases same
    | bare found => cases same
    | wrap outside content =>
      obtain rfl : outside = draft := Option.some.inj outermost
      obtain ⟨-, rfl⟩ := Chain.wrap.inj same
      exact ⟨outside, content, List.mem_of_getElem? present, asks, layer, inside, own⟩

/-- A build out of a builder of the library fills no cells but those of the lengths asked for. -/
theorem Library.mem_asked_of_filled (library : builder.Library)
    (denoted : builder.plainBuild.Denoted canon chain)
    (empty : ∀ depth view, before.bank.get? ⟨.packet chain depth, view⟩ = none)
    (coherent : before.bank.Coherent canon) {cell : Cell} (vacant : before.bank.get? cell = none)
    (full : ((builder.build chain).perform before).2.bank.isFilled cell = true) :
    cell ∈ builder.asked chain := by
  let step : Memory → Memory → Prop := Memo.State.Ripens (fun _ => ∅) (builder.asked chain)
  have retains : Retains step := by
    intro earlier later ripens other filled
    obtain ⟨value, content⟩ := Option.isSome_iff_exists.mp filled
    exact Option.isSome_iff_exists.mpr ⟨value, ripens.keeps content⟩
  have lengths : ∀ (draft : Draft) (payload : Builder), .wrap draft payload ∈ builder.walk →
      draft.asksLength = true → ∀ memory,
        Unfolds step (Packet.length chain payload.plainBuild) memory fun _ _ => True := by
    intro draft payload member asks memory
    have lets : ∀ inner : Packet, inner ∈ payload.plainBuild.walk → ∀ object,
        inner.Owns chain object → ∀ ready, Lets step ⟨object, .length⟩ ready :=
      fun inner inside object own _ state value _ _ =>
        .fill state ⟨object, .length⟩ value _ ⟨rfl, draft, payload, member, asks, inner, inside, own⟩
          fun _ needed => absurd needed (Set.notMem_empty _)
    have admits : payload.plainBuild.Admits step chain .length :=
      ⟨retains, fun inner inside => lets inner inside _ (.inl rfl) _,
        fun inner inside header present => lets inner inside _ (.inr ⟨by rw [present]; rfl, rfl⟩) _⟩
    have known : payload.Library := library.inner
      (Chain.mem_walk_trans member (Chain.mem_walk_wrap payload.mem_walk_self))
    exact (known.packet.length_unfolds admits memory).weaken fun _ _ _ => trivial
  have steps := builder.steps_build (fun memory event _ => .log memory _) denoted lengths empty
    coherent
  exact Memo.State.Ripens.mem_of_filled steps vacant full

end Builder

end Encapsulation
