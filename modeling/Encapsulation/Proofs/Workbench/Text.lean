import Encapsulation.Proofs.Packet.Outline
import Encapsulation.Proofs.Workbench.Equality

/-!
# Texts on a bench

The text that a packet of the library shows tells the bytes that it shows. Where there is one frame
at most, so that the pad can belong to no other one, the text tells the packet up to equality.
-/
namespace Encapsulation.Workbench

variable {bench : Workbench} {left right : Located}

/-- Two packets on a sound bench show the same text if and only if they mean the same text. -/
theorem Sound.showsSame_text_iff (sound : bench.Sound) (held : bench.Holds left)
    (otherHeld : bench.Holds right) :
    bench.ShowsSame .text left right ↔ left.packet.plainText = right.packet.plainText :=
  sound.showsSame_iff held otherHeld (fun _ => trivial) fun _ => trivial

/-- From a store of any packets and after any run: every packet shows a text, and if two packets of
Ethernet, LLC/SNAP, UDP and raw data show the same text, they show the same bytes; if there is one
frame in them at most, they are judged equal. -/
theorem texts_lose_no_byte (chains : Array (Option Packet)) (copies : Array Header)
    (history : List Operation) :
    let bench := run ⟨.initial, chains, copies⟩ history
    ∀ left right, bench.Holds left → bench.Holds right → left.packet.Library →
      right.packet.Library →
      (∃ text, bench.Shows left .text text) ∧
        (bench.ShowsSame .text left right → bench.ShowsSame .bytes left right) ∧
        (left.packet.frames ≤ 1 → bench.ShowsSame .text left right →
          bench.Judges left right true) := by
  intro bench left right held otherHeld library otherLibrary
  obtain ⟨-, sound⟩ := run_leads (sound_start chains copies) history
  have texts := sound.showsSame_text_iff held otherHeld
  refine ⟨⟨_, sound.shows held fun _ => trivial⟩, ?_, ?_⟩
  · intro same
    have bytes := library.plainBytes_eq_of_plainText otherLibrary (texts.mp same)
    exact (sound.showsSame_of_bytes held otherHeld library.composed otherLibrary.composed bytes).1
  · intro single same
    rw [sound.judges_iff held otherHeld otherLibrary.composed.regular]
    exact library.plainEquals_of_plainText otherLibrary single (texts.mp same)

/-- A frame around an LLC and SNAP header for some access point, with a pad. -/
def linkFrame (point : AccessPoint) : Packet :=
  .wrap (.ethernet ⟨.broadcast, .zero, .llc, 9⟩ [0, 0])
    (.wrap (.llcSnap { LlcSnapHeader.initial with destination := point }) (.unknown [7]))

/-- An access point known by its code only shows the same text as the named one with this code; the
frames are equal. -/
theorem frames_of_one_text_are_equal :
    let named : Located := ⟨0, linkFrame .snap⟩
    let coded : Located := ⟨1, linkFrame (.custom 0xaa)⟩
    let bench := run ⟨.initial, #[some named.packet, some coded.packet], #[]⟩ [.read 0 1 .text]
    (bench.Holds named ∧ bench.Holds coded) ∧ (named.packet.Library ∧ coded.packet.Library) ∧
      named.packet.frames ≤ 1 ∧ bench.ShowsSame .text named coded ∧
      bench.ShowsSame .bytes named coded ∧ bench.Judges named coded true := by
  intro named coded bench
  obtain ⟨change, sound⟩ := run_leads
    (sound_start #[some named.packet, some coded.packet] #[]) [.read 0 1 .text]
  have held : bench.Holds named := change.holds ⟨named.packet, rfl, Chain.mem_walk_self _⟩
  have otherHeld : bench.Holds coded := change.holds ⟨coded.packet, rfl, Chain.mem_walk_self _⟩
  have library : named.packet.Library := ⟨rfl, rfl, trivial⟩
  have otherLibrary : coded.packet.Library := ⟨rfl, rfl, trivial⟩
  have single : named.packet.frames ≤ 1 := by decide
  have texts : bench.ShowsSame .text named coded :=
    (sound.showsSame_text_iff held otherHeld).mpr rfl
  obtain ⟨-, bytes, equal⟩ := texts_lose_no_byte #[some named.packet, some coded.packet] #[]
    [.read 0 1 .text] named coded held otherHeld library otherLibrary
  exact ⟨⟨held, otherHeld⟩, ⟨library, otherLibrary⟩, single, texts, bytes texts,
    equal single texts⟩

end Encapsulation.Workbench
