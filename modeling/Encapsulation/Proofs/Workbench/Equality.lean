import Encapsulation.Proofs.Packet.Library
import Encapsulation.Proofs.Workbench.Shown

/-!
# Equality on a bench

What a comparison of packets says about their views. Between packets of the library the verdict can
be read off kinds, pad lengths and bytes, so equality is an equivalence there. Between composed
packets it goes one way, from a kind to those below it, and it is sound for the bytes and transitive
where the kinds are consistent.
-/
namespace Encapsulation.Workbench

variable {bench : Workbench} {left right : Located}

/-- Composed packets on a sound bench that mean the same bytes show the same bytes, the same
hexadecimal form of them and the same hash. -/
theorem Sound.showsSame_of_bytes (sound : bench.Sound) (held : bench.Holds left)
    (otherHeld : bench.Holds right) (composed : left.packet.Composed)
    (otherComposed : right.packet.Composed)
    (same : left.packet.plainBytes = right.packet.plainBytes) :
    bench.ShowsSame .bytes left right ∧ bench.ShowsSame .hex left right ∧
      bench.ShowsSame .hash left right := by
  have shown : ∀ {view : View}, view ≠ .length →
      left.packet.meaning view = right.packet.meaning view → bench.ShowsSame view left right := by
    intro view other meant
    refine (sound.showsSame_iff held otherHeld (fun bank => ?_) (fun bank => ?_)).mpr meant
    · exact composed.regular.ready_of_ne_length left.chain bank other
    · exact otherComposed.regular.ready_of_ne_length right.chain bank other
  refine ⟨shown (by decide) same, shown (by decide) ?_, shown (by decide) ?_⟩
  · exact congrArg (Bytes.toHex " ") same
  · exact congrArg Bytes.hash same

/-- Composed packets on a sound bench that mean the same bytes show the same length if it fits, and
never different ones. -/
theorem Sound.lengths_eq (sound : bench.Sound) (held : bench.Holds left)
    (otherHeld : bench.Holds right) (composed : left.packet.Composed)
    (otherComposed : right.packet.Composed)
    (same : left.packet.plainBytes = right.packet.plainBytes) :
    (left.packet.Fitting → bench.ShowsSame .length left right) ∧
      ∀ length reached otherLength elsewhere, read left .length bench = .ok length reached →
        read right .length bench = .ok otherLength elsewhere → length = otherLength := by
  have agrees : left.packet.plainBytes.length = left.packet.plainLength := composed.regular.agrees
  have otherAgrees : right.packet.plainBytes.length = right.packet.plainLength :=
    otherComposed.regular.agrees
  have lengths : left.packet.meaning .length = right.packet.meaning .length := by
    show left.packet.plainLength = right.packet.plainLength
    rw [← agrees, ← otherAgrees, same]
  constructor
  · intro fitting
    have fits : left.packet.plainLength < UInt64.size := fitting _ left.packet.mem_walk_self
    have otherFitting : right.packet.Fitting := otherComposed.fitting (by
      rw [← same, agrees]
      exact fits)
    exact (sound.showsSame_iff held otherHeld
      (fun bank => composed.regular.ready fitting bank .length)
      (fun bank => otherComposed.regular.ready otherFitting bank .length)).mpr lengths
  · intro length reached otherLength elsewhere first second
    rw [sound.truthful.packets left held .length length reached first,
      sound.truthful.packets right otherHeld .length otherLength elsewhere second, lengths]

/-- A comparison with a composed packet on a sound bench has a verdict. -/
theorem Sound.judges_total (sound : bench.Sound) (held : bench.Holds left)
    (otherHeld : bench.Holds right) (composed : right.packet.Composed) :
    bench.Judges left right true ∨ bench.Judges left right false := by
  have verdict := (sound.judges_iff held otherHeld composed.regular _).mpr rfl
  cases equal : left.packet.plainEquals right.packet with
  | true => exact .inl (equal ▸ verdict)
  | false => exact .inr (equal ▸ verdict)

/-- Composed packets on a sound bench that are judged equal mean the same bytes. -/
theorem Sound.bytes_eq_of_judges (sound : bench.Sound) (held : bench.Holds left)
    (otherHeld : bench.Holds right) (composed : left.packet.Composed)
    (otherComposed : right.packet.Composed) (judged : bench.Judges left right true) :
    left.packet.plainBytes = right.packet.plainBytes := by
  have equal : left.packet.plainEquals right.packet = true :=
    (sound.judges_iff held otherHeld otherComposed.regular true).mp judged
  exact composed.plainBytes_eq otherComposed equal

/-- Packets of the library on a sound bench are judged equal if and only if their layers are of the
same kinds, the pads of their frames have the same lengths, and they show the same bytes. -/
theorem Sound.judges_library_iff (sound : bench.Sound) (held : bench.Holds left)
    (otherHeld : bench.Holds right) (library : left.packet.Library)
    (otherLibrary : right.packet.Library) :
    bench.Judges left right true ↔ left.packet.kinds = right.packet.kinds ∧
      left.packet.padLengths = right.packet.padLengths ∧ bench.ShowsSame .bytes left right := by
  have shown : bench.ShowsSame .bytes left right ↔
      left.packet.plainBytes = right.packet.plainBytes :=
    sound.showsSame_iff held otherHeld (fun bank => library.composed.regular.bytesReady bank)
      (fun bank => otherLibrary.composed.regular.bytesReady bank)
  rw [sound.judges_iff held otherHeld otherLibrary.composed.regular, shown]
  exact library.plainEquals_iff otherLibrary

/-- From a store of any packets and after any run: between packets of Ethernet, LLC/SNAP, UDP and
raw data, one is judged to equal another one if and only if their layers are of the same kinds, the
pads of their frames have the same lengths, and they show the same bytes, and otherwise it is judged
not to. So equality is reflexive, symmetric and transitive, and packets that are equal show the same
hexadecimal form, hash and length. -/
theorem library_equality_is_exact (chains : Array (Option Packet)) (copies : Array Header)
    (history : List Operation) :
    let bench := run ⟨.initial, chains, copies⟩ history
    ∀ left right, bench.Holds left → bench.Holds right → left.packet.Library →
      right.packet.Library →
      (bench.Judges left right true ∨ bench.Judges left right false) ∧
        (bench.Judges left right true ↔ left.packet.kinds = right.packet.kinds ∧
          left.packet.padLengths = right.packet.padLengths ∧
          bench.ShowsSame .bytes left right) ∧
        bench.Judges left left true ∧
        (bench.Judges left right true → bench.Judges right left true) ∧
        (∀ third, bench.Holds third → third.packet.Library → bench.Judges left right true →
          bench.Judges right third true → bench.Judges left third true) ∧
        (bench.Judges left right true →
          bench.ShowsSame .hex left right ∧ bench.ShowsSame .hash left right ∧
            (left.packet.Fitting → bench.ShowsSame .length left right) ∧
            ∀ length reached otherLength elsewhere, read left .length bench = .ok length reached →
              read right .length bench = .ok otherLength elsewhere → length = otherLength) := by
  intro bench left right held otherHeld library otherLibrary
  obtain ⟨-, sound⟩ := run_leads (sound_start chains copies) history
  have exactly := sound.judges_library_iff held otherHeld library otherLibrary
  refine ⟨?_, exactly, ?_, ?_, ?_, ?_⟩
  · exact sound.judges_total held otherHeld otherLibrary.composed
  · exact (sound.judges_iff held held library.composed.regular true).mpr
      left.packet.plainEquals_self
  · intro judged
    obtain ⟨kinds, pads, bytes⟩ := exactly.mp judged
    exact (sound.judges_library_iff otherHeld held otherLibrary library).mpr
      ⟨kinds.symm, pads.symm, bytes.symm⟩
  · intro third thirdHeld thirdLibrary judged onward
    obtain ⟨kinds, pads, bytes⟩ := exactly.mp judged
    obtain ⟨nextKinds, nextPads, nextBytes⟩ :=
      (sound.judges_library_iff otherHeld thirdHeld otherLibrary thirdLibrary).mp onward
    exact (sound.judges_library_iff held thirdHeld library thirdLibrary).mpr
      ⟨kinds.trans nextKinds, pads.trans nextPads, bytes.trans nextBytes⟩
  · intro judged
    have bytes := sound.bytes_eq_of_judges held otherHeld library.composed otherLibrary.composed
      judged
    obtain ⟨-, hex, hash⟩ := sound.showsSame_of_bytes held otherHeld library.composed
      otherLibrary.composed bytes
    exact ⟨hex, hash, sound.lengths_eq held otherHeld library.composed otherLibrary.composed bytes⟩

/-- A frame around some bytes with a pad after them. -/
def paddedFrame (data pad : Bytes) : Packet :=
  .wrap (.ethernet ⟨.broadcast, .zero, .ipv4, EtherType.ipv4.code⟩ pad) (.unknown data)

/-- Two frames that show the same bytes are not equal where the pad begins earlier in one of
them. -/
theorem earlier_pad_is_not_equal :
    let bench := run ⟨.initial, #[some (paddedFrame [1] [0, 0]), some (paddedFrame [1, 0] [0])],
      #[]⟩ [.equals 0 0 1 0]
    let early : Located := ⟨0, paddedFrame [1] [0, 0]⟩
    let late : Located := ⟨1, paddedFrame [1, 0] [0]⟩
    (bench.Holds early ∧ bench.Holds late) ∧
      (early.packet.Library ∧ late.packet.Library) ∧ bench.ShowsSame .bytes early late ∧
      bench.Judges early early true ∧ bench.Judges early late false := by
  intro bench early late
  obtain ⟨change, sound⟩ := run_leads
    (sound_start #[some early.packet, some late.packet] #[]) [.equals 0 0 1 0]
  have held : bench.Holds early := change.holds ⟨early.packet, rfl, Chain.mem_walk_self _⟩
  have otherHeld : bench.Holds late := change.holds ⟨late.packet, rfl, Chain.mem_walk_self _⟩
  have library : early.packet.Library := ⟨rfl, trivial⟩
  have otherLibrary : late.packet.Library := ⟨rfl, trivial⟩
  have bytes := sound.showsSame_of_bytes held otherHeld library.composed otherLibrary.composed rfl
  obtain ⟨verdict, exactly, same, -⟩ := library_equality_is_exact
    #[some early.packet, some late.packet] #[] [.equals 0 0 1 0] early late held otherHeld library
    otherLibrary
  have unequal : ¬ bench.Judges early late true := by
    intro judged
    have lengths : early.packet.padLengths ≠ late.packet.padLengths := by decide
    exact lengths (exactly.mp judged).2.1
  exact ⟨⟨held, otherHeld⟩, ⟨library, otherLibrary⟩, bytes.1, same, verdict.resolve_left unequal⟩

/-- From a store of any packets and after any run, between packets of layers that are composed of
their parts: one is judged to equal another one or not to; if it is, both show the same bytes and
the same hash, whatever numbers of layers they have; a packet of the same fields is equal; and among
packets whose kinds, headers' kinds and ancestors are consistent, equality is transitive. -/
theorem composed_equality_is_sound (chains : Array (Option Packet)) (copies : Array Header)
    (history : List Operation) :
    let bench := run ⟨.initial, chains, copies⟩ history
    ∀ left middle, bench.Holds left → bench.Holds middle → left.packet.Composed →
      middle.packet.Composed →
      (bench.Judges left middle true ∨ bench.Judges left middle false) ∧
        (bench.Judges left middle true →
          bench.ShowsSame .bytes left middle ∧ bench.ShowsSame .hash left middle) ∧
        (left.packet = middle.packet → bench.Judges left middle true) ∧
        ∀ right, bench.Holds right → right.packet.Composed →
          Kind.Consistent
            (left.packet.involved ++ middle.packet.involved ++ right.packet.involved) →
          bench.Judges left middle true → bench.Judges middle right true →
            bench.Judges left right true := by
  intro bench left middle held middleHeld composed middleComposed
  obtain ⟨-, sound⟩ := run_leads (sound_start chains copies) history
  refine ⟨sound.judges_total held middleHeld middleComposed, ?_, ?_, ?_⟩
  · intro judged
    have bytes := sound.bytes_eq_of_judges held middleHeld composed middleComposed judged
    obtain ⟨shown, -, hash⟩ := sound.showsSame_of_bytes held middleHeld composed middleComposed
      bytes
    exact ⟨shown, hash⟩
  · intro same
    rw [sound.judges_iff held middleHeld middleComposed.regular, same]
    exact middle.packet.plainEquals_self
  · intro right rightHeld rightComposed consistent judged onward
    rw [sound.judges_iff held middleHeld middleComposed.regular] at judged
    rw [sound.judges_iff middleHeld rightHeld rightComposed.regular] at onward
    rw [sound.judges_iff held rightHeld rightComposed.regular]
    have closed := (left.packet.closed_involved.append middle.packet.closed_involved).append
      right.packet.closed_involved
    have within : middle.packet.involved ⊆
        left.packet.involved ++ middle.packet.involved ++ right.packet.involved :=
      fun _ member => List.mem_append_left _ (List.mem_append_right _ member)
    have rightWithin : right.packet.involved ⊆
        left.packet.involved ++ middle.packet.involved ++ right.packet.involved :=
      List.subset_append_right _ _
    exact composed.plainEquals_trans consistent closed middleComposed rightComposed within
      rightWithin judged onward

/-- A kind of a caller below the kind of raw data. -/
def tagKind : Kind := .sub "Tag" (.custom "tag") .unknown

/-- A layer of a caller with a header of one byte, around another byte. -/
def taggedByte (kind : Kind) : Packet :=
  .wrap (.custom ⟨kind, some ⟨.root "Tag Header" (.custom "tag header"), [[9]], none⟩, none,
    .composed⟩) (.unknown [7])

/-- Raw data equals a layer below its kind and a layer below that one, which have more layers than
it, and the first of them does not equal raw data. -/
theorem raw_data_equals_tagged_bytes :
    let raw : Located := ⟨0, .unknown [9, 7]⟩
    let tagged : Located := ⟨1, taggedByte tagKind⟩
    let nested : Located := ⟨2, taggedByte (.sub "Inner Tag" (.custom "inner tag") tagKind)⟩
    let bench := run ⟨.initial, #[some raw.packet, some tagged.packet, some nested.packet], #[]⟩
      [.equals 0 0 2 0]
    (bench.Holds raw ∧ bench.Holds tagged ∧ bench.Holds nested) ∧
      (raw.packet.Composed ∧ tagged.packet.Composed ∧ nested.packet.Composed) ∧
      Kind.Consistent
        (raw.packet.involved ++ tagged.packet.involved ++ nested.packet.involved) ∧
      raw.packet.depth ≠ tagged.packet.depth ∧ bench.Judges raw tagged true ∧
      bench.ShowsSame .bytes raw tagged ∧ bench.Judges tagged nested true ∧
      bench.Judges raw nested true ∧ bench.Judges tagged raw false := by
  intro raw tagged nested bench
  obtain ⟨change, sound⟩ := run_leads
    (sound_start #[some raw.packet, some tagged.packet, some nested.packet] #[]) [.equals 0 0 2 0]
  have held : bench.Holds raw := change.holds ⟨raw.packet, rfl, Chain.mem_walk_self _⟩
  have taggedHeld : bench.Holds tagged := change.holds ⟨tagged.packet, rfl, Chain.mem_walk_self _⟩
  have nestedHeld : bench.Holds nested := change.holds ⟨nested.packet, rfl, Chain.mem_walk_self _⟩
  have composed : raw.packet.Composed := trivial
  have taggedComposed : tagged.packet.Composed := by
    refine ⟨⟨by decide, fun _ => by decide⟩, trivial⟩
  have nestedComposed : nested.packet.Composed := by
    refine ⟨⟨by decide, fun _ => by decide⟩, trivial⟩
  have consistent : Kind.Consistent
      (raw.packet.involved ++ tagged.packet.involved ++ nested.packet.involved) := by decide
  have first : bench.Judges raw tagged true :=
    (sound.judges_iff held taggedHeld taggedComposed.regular true).mpr (by decide)
  have second : bench.Judges tagged nested true :=
    (sound.judges_iff taggedHeld nestedHeld nestedComposed.regular true).mpr (by decide)
  have backwards : bench.Judges tagged raw false :=
    (sound.judges_iff taggedHeld held composed.regular false).mpr (by decide)
  obtain ⟨-, shown, -, transitive⟩ := composed_equality_is_sound
    #[some raw.packet, some tagged.packet, some nested.packet] #[] [.equals 0 0 2 0] raw tagged held
    taggedHeld composed taggedComposed
  exact ⟨⟨held, taggedHeld, nestedHeld⟩, ⟨composed, taggedComposed, nestedComposed⟩, consistent,
    by decide, first, (shown first).1, second,
    transitive nested nestedHeld nestedComposed consistent first second, backwards⟩

end Encapsulation.Workbench
