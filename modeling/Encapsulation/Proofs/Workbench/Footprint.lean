import Encapsulation.Proofs.Access.Footprint
import Encapsulation.Proofs.Workbench.Closure
import Encapsulation.Proofs.Workbench.Failure

/-!
# Comparisons on a bench

What a comparison of two packets of the library leaves on a bench: their bytes, as far as it had to
look, and nothing else.
-/
namespace Encapsulation.Workbench

/-- From a store of any packets and copies of headers of which nothing is remembered, after a run of
any operations, a comparison of two packets of the library that are not one object returns what their
fields say. It leaves all packets and copies, and every cell outside its footprint, as they are, and
fills every cell of the footprint that is empty; so the bytes of headers and of raw data are all that
it computes, from the outside in as far as the kinds agree and the headers before are equal. Frames
whose headers are equal do not stop it, whatever their pads are. -/
theorem comparisons_compute_footprint (chains : Array (Option Packet)) (copies : Array Header)
    (history : List Operation) (left right : Located) :
    let bench := run ⟨.initial, chains, copies⟩ history
    let footprint := Packet.footprint left.chain right.chain left.packet right.packet
    bench.Holds left → bench.Holds right → left.packet.Library → right.packet.Library →
      left.packet.object left.chain ≠ right.packet.object right.chain →
        (∃ reached, equals left right bench = .ok (left.packet.plainEquals right.packet) reached ∧
          reached.chains = bench.chains ∧ reached.copies = bench.copies ∧
          (∀ cell ∈ footprint, reached.memory.bank.isFilled cell = true) ∧
          (∀ cell ∉ footprint, reached.memory.bank.get? cell = bench.memory.bank.get? cell) ∧
          ∀ cell value, bench.memory.bank.get? cell = some value →
            reached.memory.bank.get? cell = some value) ∧
        ∀ position header otherHeader pad otherPad payload otherPayload,
          left.packet.Reaches right.packet position (.wrap (.ethernet header pad) payload)
              (.wrap (.ethernet otherHeader otherPad) otherPayload) →
            (Header.ethernet header).bytes = (Header.ethernet otherHeader).bytes →
              payload.kind = otherPayload.kind →
                left.packet.Reaches right.packet (position + 1) payload otherPayload := by
  intro bench footprint held otherHeld library otherLibrary apart
  obtain ⟨-, sound⟩ := run_leads (sound_start chains copies) history
  constructor
  · obtain ⟨verdict, fills⟩ :=
      Packet.equals_fills library otherLibrary held.denoted otherHeld.denoted apart
    obtain ⟨memory, returned, advance, -, full⟩ :=
      fills [] bench.memory (List.forall_mem_nil _) sound.coherent
    obtain ⟨-, same, -, -⟩ := (Packet.equals_meets held.denoted otherHeld.denoted
      (held.kin otherHeld) subset_rfl).of_eq_ok (List.forall_mem_nil _) sound.coherent returned
    obtain rfl : verdict = left.packet.plainEquals right.packet := same
    exact ⟨_, access_of_returned returned, rfl, rfl, full, advance.spares, advance.keeps⟩
  · intro position header otherHeader pad otherPad payload otherPayload reaches headers kinds
    exact reaches.inside (congrArg some headers) rfl rfl kinds

/-- A bench with two frames of different pads around datagrams of one header and different data. -/
def twinBench : Workbench :=
  ⟨.initial, #[
    some (.wrap (.ethernet ⟨.zero, .zero, .ipv4, 0x0800⟩ [0])
      (.wrap (.udp ⟨⟨1⟩, ⟨2⟩, 9, 0⟩) (.unknown [1]))),
    some (.wrap (.ethernet ⟨.zero, .zero, .ipv4, 0x0800⟩ [])
      (.wrap (.udp ⟨⟨1⟩, ⟨2⟩, 9, 0⟩) (.unknown [2])))], #[]⟩

/-- A comparison of the frames says that they are not equal after it has built the bytes of all
headers and of the data, but neither those of the frames nor those of the datagrams. -/
theorem twin_frames_are_walked :
    let left : Located := ⟨0, .wrap (.ethernet ⟨.zero, .zero, .ipv4, 0x0800⟩ [0])
      (.wrap (.udp ⟨⟨1⟩, ⟨2⟩, 9, 0⟩) (.unknown [1]))⟩
    let right : Located := ⟨1, .wrap (.ethernet ⟨.zero, .zero, .ipv4, 0x0800⟩ [])
      (.wrap (.udp ⟨⟨1⟩, ⟨2⟩, 9, 0⟩) (.unknown [2]))⟩
    twinBench.Holds left ∧ twinBench.Holds right ∧ left.packet.Library ∧ right.packet.Library ∧
      ∃ reached, equals left right twinBench = .ok false reached ∧
        reached.Has (.header 0 3) .bytes ∧ reached.Has (.packet 0 1) .bytes ∧
        reached.Has (.packet 1 1) .bytes ∧ ¬ reached.Has (.packet 0 3) .bytes := by
  intro left right
  have held : twinBench.Holds left := ⟨left.packet, rfl, Chain.mem_walk_self _⟩
  have otherHeld : twinBench.Holds right := ⟨right.packet, rfl, Chain.mem_walk_self _⟩
  have library : left.packet.Library := ⟨rfl, rfl, trivial⟩
  have otherLibrary : right.packet.Library := ⟨rfl, rfl, trivial⟩
  obtain ⟨⟨reached, returned, -, -, full, spared, -⟩, goes⟩ :=
    comparisons_compute_footprint twinBench.chains twinBench.copies [] left right held otherHeld
      library otherLibrary (by decide)
  have frames : left.packet.Reaches right.packet 0 left.packet right.packet :=
    Packet.reaches_zero_iff.mpr ⟨rfl, rfl, rfl⟩
  have datagrams := goes 0 _ _ _ _ _ _ frames rfl rfl
  have data := datagrams.inside rfl rfl rfl rfl
  refine ⟨held, otherHeld, library, otherLibrary, reached, returned,
    full _ ⟨0, _, _, frames, rfl, .inl ⟨rfl, rfl, .inl rfl⟩⟩,
    full _ ⟨2, _, _, data, rfl, .inr ⟨rfl, .inl rfl⟩⟩,
    full _ ⟨2, _, _, data, rfl, .inr ⟨rfl, .inr rfl⟩⟩, fun filled => ?_⟩
  have outside : (⟨.packet 0 3, .bytes⟩ : Cell) ∉
      Packet.footprint left.chain right.chain left.packet right.packet := by
    rintro ⟨position, inner, otherInner, reaches, -, ⟨-, -, same | same⟩ | ⟨unknown, same | same⟩⟩
    · cases same
    · cases same
    · have deep : 3 = inner.depth := (Object.packet.inj same).2
      have place : inner.depth + position = 3 := Chain.depth_of_inner? reaches.found
      obtain rfl : position = 0 := by omega
      obtain rfl : left.packet = inner := Option.some.inj reaches.found
      cases congrArg Kind.owner unknown
    · cases (Object.packet.inj same).1
  have vacant := spared _ outside
  rw [Has, Memo.Bank.isFilled, vacant] at filled
  exact Bool.noConfusion filled

end Encapsulation.Workbench
