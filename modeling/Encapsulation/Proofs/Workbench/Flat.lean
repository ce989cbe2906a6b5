import Encapsulation.Proofs.Chain.Mirror
import Encapsulation.Proofs.Packet.Flat
import Encapsulation.Proofs.Workbench.Shown
import Mathlib.Data.List.Forall2

/-!
# Flat texts on a bench

The text that a packet of the library shows is put together layer by layer, with what each header
shows and with counts out of lengths that are remembered apart. What comes out can be told without
the nesting: the texts of the headers that a walk meets, the raw data, and the pads from the
innermost frame outwards; and the counts in it add up to the length that the packet shows.
-/
namespace Encapsulation.Workbench

variable {bench : Workbench} {target : Located}

/-- The headers of all layers inside a packet on a sound bench show their texts. -/
theorem Sound.headerShows_texts (sound : bench.Sound) (held : bench.Holds target) :
    List.Forall₂ (fun inner text => bench.HeaderShows ⟨target.chain, inner⟩ .text text)
      target.packet.walk (Packet.headerTexts target.packet.walk) := by
  rw [Packet.headerTexts, List.forall₂_map_right_iff, List.forall₂_same]
  intro inner member
  exact sound.headerShows (held.inner member) .text

/-- From a store of any packets and after any run: every packet of Ethernet, LLC/SNAP, UDP and raw
data shows the texts of the headers that a walk along it meets, outermost first, then the section of
its raw data, if it has some, and then those of its pads, unless they are empty, innermost frame
first. The counts in all headings add up to its length whenever the length is returned, and if they
fit, it is. -/
theorem texts_are_flat (chains : Array (Option Packet)) (copies : Array Header)
    (history : List Operation) :
    let bench := run ⟨.initial, chains, copies⟩ history
    ∀ target, bench.Holds target → target.packet.Library →
      ∃ (layers : List Packet) (headers : List (Option String)) (text : String),
        (Cursor.start target.packet).Meets layers ∧
        List.Forall₂ (fun inner header => bench.HeaderShows ⟨target.chain, inner⟩ .text header)
          layers headers ∧
        text = String.join headers.reduceOption ++
          String.join ((Packet.dataSections layers ++ Packet.padSections layers).map
            Section.text) ∧
        bench.Shows target .text text ∧
        (∀ length reached, read target .length bench = .ok length reached →
          (Text.counts text).sum = length) ∧
        ((Text.counts text).sum < UInt64.size →
          bench.Shows target .length (Text.counts text).sum) := by
  intro bench target held library
  obtain ⟨-, sound⟩ := run_leads (sound_start chains copies) history
  have total := library.sum_counts
  refine ⟨target.packet.walk, Packet.headerTexts target.packet.walk, target.packet.plainText,
    Cursor.meets_start_iff.mpr rfl, sound.headerShows_texts held, Packet.plainText_eq_flat _,
    sound.shows held fun _ => trivial, ?_, ?_⟩
  · intro length reached returned
    have meant : length = target.packet.plainLength :=
      sound.truthful.packets target held .length length reached returned
    rw [total, meant]
  · intro fits
    rw [total] at fits ⊢
    have regular := library.composed.regular
    have fitting := library.composed.fitting (regular.agrees.trans_lt fits)
    exact sound.shows held fun bank => regular.ready fitting bank .length

/-- A frame with a pad around a datagram, around a frame without a pad, around a frame with one. -/
def paddedFrames : Packet :=
  .wrap (.ethernet ⟨.broadcast, .zero, .llc, 9⟩ [0, 0])
    (.wrap (.udp ⟨⟨1⟩, ⟨2⟩, 0, 0⟩)
      (.wrap (.ethernet ⟨.broadcast, .zero, .llc, 9⟩ [])
        (.wrap (.ethernet ⟨.broadcast, .zero, .llc, 9⟩ [5]) (.unknown [7]))))

/-- The pads come after the raw data, and the counts add up to 54. -/
theorem padded_frames_are_flat :
    let target : Located := ⟨0, paddedFrames⟩
    let bench := run ⟨.initial, #[some paddedFrames], #[]⟩ [.read 0 1 .hash]
    bench.Holds target ∧ target.packet.Library ∧
      ∃ (headers : List (Option String)) (text : String),
        List.Forall₂ (fun inner header => bench.HeaderShows ⟨0, inner⟩ .text header)
          paddedFrames.walk headers ∧
        text = String.join headers.reduceOption ++
          String.join ([.data [7], .pad [5], .pad [0, 0]].map Section.text) ∧
        bench.Shows target .text text ∧ bench.Shows target .length 54 := by
  intro target bench
  obtain ⟨change, sound⟩ := run_leads (sound_start #[some paddedFrames] #[]) [.read 0 1 .hash]
  have held : bench.Holds target := change.holds ⟨paddedFrames, rfl, Chain.mem_walk_self _⟩
  have library : target.packet.Library := ⟨rfl, rfl, rfl, rfl, trivial⟩
  obtain ⟨layers, headers, text, met, shown, flat, texts, -, lengths⟩ :=
    texts_are_flat #[some paddedFrames] #[] [.read 0 1 .hash] target held library
  obtain rfl : layers = paddedFrames.walk := Cursor.meets_start_iff.mp met
  have meant : bench.Shows target .text paddedFrames.plainText := sound.shows held fun _ => trivial
  obtain rfl : paddedFrames.plainText = text := meant.eq texts
  have total : (Text.counts paddedFrames.plainText).sum = 54 := library.sum_counts
  refine ⟨held, library, headers, _, shown, flat, texts, ?_⟩
  rw [total] at lengths
  exact lengths (by decide)

end Encapsulation.Workbench
