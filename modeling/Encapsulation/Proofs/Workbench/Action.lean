import Encapsulation.Proofs.Workbench.Sound

/-!
# Actions on sound workbenches

What the actions of a bench do to a sound bench: they return or fail as the accesses, copies and
builds under them do, and they leave a sound bench behind.
-/
namespace Encapsulation.Workbench

open Memo (Canon Bank)
open Memo.Eval (Meets)

variable {bench : Workbench} {region larger : Set Cell} {α γ : Type}

/-- An action leads from a bench to a sound one, and touches the cells of a region only. -/
structure Leads (region : Set Cell) (action : Use α) (bench : Workbench) : Prop where
  /-- The bench left behind comes after the first one. -/
  becomes : bench.Becomes region (bench.after action)
  /-- The bench left behind is sound. -/
  sound : (bench.after action).Sound

namespace Leads

/-- A region may be taken larger. -/
theorem mono {action : Use α} (within : region ⊆ larger) (leads : Leads region action bench) :
    Leads larger action bench :=
  ⟨leads.becomes.mono within, leads.sound⟩

/-- A plain value leaves a sound bench as it is. -/
theorem pure (region : Set Cell) (sound : bench.Sound) (value : α) :
    Leads region (Pure.pure value) bench :=
  ⟨.refl region bench, sound⟩

/-- An action that fails at once leaves a sound bench as it is. -/
theorem throw (region : Set Cell) (sound : bench.Sound) (failure : Failure) :
    Leads region (throw failure : Use α) bench :=
  ⟨.refl region bench, sound⟩

/-- One action after another: the second one goes on from what the first one leaves behind, if
that returns. -/
theorem bind {first : Use α} {second : α → Use γ} (front : Leads region first bench)
    (back : ∀ value reached, first bench = .ok value reached → reached.Sound →
      Leads region (second value) reached) :
    Leads region (first >>= second) bench := by
  obtain ⟨change, sound⟩ := front
  cases outcome : first bench with
  | ok value reached =>
    have left : bench.after first = reached := by simp only [after, outcome]
    have onward : bench.after (first >>= second) = reached.after (second value) :=
      after_bind_of_ok outcome
    rw [left] at change sound
    obtain ⟨later, kept⟩ := back value reached outcome sound
    exact ⟨onward ▸ change.trans later, onward ▸ kept⟩
  | error failure reached =>
    have left : bench.after first = reached := by simp only [after, outcome]
    have broken : bench.after (first >>= second) = reached := after_bind_of_error outcome
    rw [left] at change sound
    exact ⟨broken ▸ change, broken ▸ sound⟩

/-- What is done with the value of an action in the end leaves the bench as it is. -/
theorem bind_pure {first : Use α} {value : α → γ} (front : Leads region first bench) :
    Leads region (first >>= fun result => Pure.pure (value result)) bench :=
  front.bind fun _ _ _ sound => .pure region sound _

/-- What is made of the value of an action leaves the bench as it is. -/
theorem map {action : Use α} (front : Leads region action bench) (value : α → γ) :
    Leads region (value <$> action) bench := by
  rw [map_eq_pure_bind]
  exact front.bind_pure

end Leads

/-- A packet is located on a bench if there is one, and the bench stays as it is. -/
theorem locate_cases (bench : Workbench) (chain position : Nat) :
    (∃ target, bench.Holds target ∧ target.chain = chain ∧
        locate chain position bench = .ok target bench) ∨
      locate chain position bench = .error .absent bench := by
  simp only [locate, get_bind_apply]
  cases content : bench.chains[chain]?.join with
  | none => exact .inr rfl
  | some root =>
    cases found : root.inner? position with
    | none =>
      simp only [Option.bind_some, found]
      exact .inr rfl
    | some packet =>
      simp only [Option.bind_some, found]
      have held : bench.Holds ⟨chain, packet⟩ :=
        ⟨root, Option.join_eq_some_iff.mp content, List.mem_of_getElem? found⟩
      exact .inl ⟨⟨chain, packet⟩, held, rfl, rfl⟩

/-- What comes after an action that returns and leaves the bench as it is. -/
theorem leads_of_returns {first : Use α} {second : α → Use γ} {value : α}
    (returned : first bench = .ok value bench) (back : Leads region (second value) bench) :
    Leads region (first >>= second) bench := by
  have onward : bench.after (first >>= second) = bench.after (second value) :=
    after_bind_of_ok returned
  obtain ⟨change, kept⟩ := back
  exact ⟨onward ▸ change, onward ▸ kept⟩

/-- Nothing comes after an action that fails. -/
theorem leads_of_fails {first : Use α} {second : α → Use γ} {failure : Failure}
    (failed : first bench = .error failure bench) (sound : bench.Sound) :
    Leads region (first >>= second) bench := by
  have broken : bench.after (first >>= second) = bench := after_bind_of_error failed
  constructor
  · rw [broken]
    exact .refl region bench
  · rw [broken]
    exact sound

/-- What is done with a located packet. -/
theorem leads_locate {action : Located → Use α} (sound : bench.Sound) (chain position : Nat)
    (leads : ∀ target, bench.Holds target → target.chain = chain →
      Leads region (action target) bench) :
    Leads region (locate chain position >>= action) bench := by
  rcases locate_cases bench chain position with ⟨target, held, same, found⟩ | missing
  · exact leads_of_returns found (leads target held same)
  · exact leads_of_fails missing sound

/-- A header is located on a bench if there is one, and the bench stays as it is. -/
theorem locateHeader_cases (bench : Workbench) (site : Site) :
    (∃ object header, bench.headerAt? object = some header ∧ site.Covers object ∧
        locateHeader site bench = .ok (some (object, header)) bench) ∨
      locateHeader site bench = .ok none bench ∨
      locateHeader site bench = .error .absent bench := by
  cases site with
  | layer chain position =>
    rcases locate_cases bench chain position with ⟨target, held, rfl, found⟩ | missing
    · cases present : target.packet.header? with
      | none =>
        refine .inr (.inl ?_)
        simp only [locateHeader, Bind.bind, EStateM.bind, found, present]
        rfl
      | some header =>
        refine .inl ⟨target.packet.headerObject target.chain, header,
          held.headerAt?.trans present, rfl, ?_⟩
        simp only [locateHeader, Bind.bind, EStateM.bind, found, present]
        rfl
    · refine .inr (.inr ?_)
      simp only [locateHeader, Bind.bind, EStateM.bind, missing]
  | copy serial =>
    cases known : bench.copies[serial]? with
    | none =>
      refine .inr (.inr ?_)
      simp only [locateHeader, get_bind_apply, known]
      rfl
    | some header =>
      refine .inl ⟨.copy serial, header, known, rfl, ?_⟩
      simp only [locateHeader, get_bind_apply, known]
      rfl

/-- What is done with a located header. -/
theorem leads_locateHeader {action : Option (Object × Header) → Use α} (sound : bench.Sound)
    (site : Site)
    (leads : ∀ object header, bench.headerAt? object = some header → site.Covers object →
      Leads region (action (some (object, header))) bench)
    (absent : Leads region (action none) bench) :
    Leads region (locateHeader site >>= action) bench := by
  rcases locateHeader_cases bench site with
    ⟨object, header, known, covered, found⟩ | headless | missing
  · exact leads_of_returns found (leads object header known covered)
  · exact leads_of_returns headless absent
  · exact leads_of_fails missing sound

/-- An access on a sound bench: it returns the value of its contract if the bench is ready, and
fails otherwise, and what is remembered afterwards is coherent either way. -/
theorem access_outcome {action : Access α} {ready : Bank Cell Cell.Value → Prop}
    {fault : Fault → Bank Cell Cell.Value → Prop} {value : α} (sound : bench.Sound)
    (met : Meets bench.canon action ⟨region, ready, fault, value⟩)
    (issued : ∀ cell ∈ region, bench.Issued cell.object) :
    ∃ reached : Workbench, bench.Becomes region reached ∧ reached.Sound ∧
      ((ready bench.memory.bank ∧ access action bench = .ok value reached) ∨
        (¬ ready bench.memory.bank ∧ ∃ cause, fault cause reached.memory.bank ∧
          access action bench = .error (.faulted cause) reached)) := by
  obtain ⟨memory, advance, kept, outcome⟩ :=
    met [] bench.memory (List.forall_mem_nil _) sound.coherent
  have fresh : ∀ cell : Cell, ¬ bench.Issued cell.object → memory.bank.get? cell = none := by
    intro cell missing
    rw [advance.spares cell fun inside => missing (issued cell inside)]
    exact sound.fresh cell missing
  refine ⟨{ bench with memory }, .of_memory advance, ⟨kept, fresh⟩, ?_⟩
  rcases outcome with ⟨fit, returned⟩ | ⟨unfit, cause, inner, failed, blame, -⟩
  · exact .inl ⟨fit, access_of_returned returned⟩
  · exact .inr ⟨unfit, cause, blame, access_of_failed failed⟩

/-- An access on a sound bench leads to a sound bench. -/
theorem leads_access {action : Access α} {ready : Bank Cell Cell.Value → Prop}
    {fault : Fault → Bank Cell Cell.Value → Prop} {value : α} (sound : bench.Sound)
    (met : Meets bench.canon action ⟨region, ready, fault, value⟩)
    (issued : ∀ cell ∈ region, bench.Issued cell.object) : Leads region (access action) bench := by
  obtain ⟨reached, change, kept, outcome⟩ := access_outcome sound met issued
  have left : bench.after (access action) = reached := by
    rcases outcome with ⟨-, returned⟩ | ⟨-, cause, -, failed⟩
    · simp only [after, returned]
    · simp only [after, failed]
  exact ⟨left ▸ change, left ▸ kept⟩

/-- The cells of a new object start with what the other object remembers. -/
theorem get?_copyCells_self {source target : Object} (distinct : source ≠ target)
    (bank : Bank Cell Cell.Value) (view : View) :
    (copyCells source target bank).get? ⟨target, view⟩ = bank.get? ⟨source, view⟩ := by
  have away : ∀ shown asked, Cell.mk target shown ≠ Cell.mk source asked := by
    intro shown asked same
    exact distinct (congrArg Cell.object same).symm
  simp only [copyCells, View.all, List.foldl]
  cases view <;> simp [Bank.get?_renew_of_ne, away]

/-- The cells of other objects stay as they are when those of a new object are made. -/
theorem get?_copyCells_of_ne {source target : Object} (bank : Bank Cell Cell.Value) {cell : Cell}
    (other : cell.object ≠ target) :
    (copyCells source target bank).get? cell = bank.get? cell := by
  have away : ∀ view, Cell.mk target view ≠ cell := by
    intro view same
    exact other (congrArg Cell.object same).symm
  simp only [copyCells, View.all, List.foldl, Bank.get?_renew_of_ne _ _ (away _)]

/-- A new copy lays down nothing for other objects. -/
theorem canon_push_copy (bench : Workbench) (memory : Memory) (header : Header) {cell : Cell}
    (other : cell.object ≠ .copy bench.copies.size) :
    canon { bench with memory, copies := bench.copies.push header } cell = bench.canon cell := by
  obtain ⟨object, view⟩ := cell
  cases object with
  | packet chain depth => rfl
  | header chain depth => rfl
  | copy serial =>
    have distinct : serial ≠ bench.copies.size := fun same => other (congrArg Object.copy same)
    simp only [canon, headerAt?, Array.getElem?_push, if_neg distinct]

/-- A new chain lays down nothing for objects outside it. -/
theorem canon_push_chain (bench : Workbench) (memory : Memory) (entry : Option Packet) {cell : Cell}
    (other : cell.object.chain? ≠ some bench.chains.size) :
    canon { bench with memory, chains := bench.chains.push entry } cell = bench.canon cell := by
  have packets : ∀ chain depth, chain ≠ bench.chains.size →
      packetAt? { bench with memory, chains := bench.chains.push entry } chain depth =
        bench.packetAt? chain depth := by
    intro chain depth distinct
    simp only [packetAt?, Array.getElem?_push, if_neg distinct]
  obtain ⟨object, view⟩ := cell
  cases object with
  | packet chain depth =>
    have distinct : chain ≠ bench.chains.size := fun same => other (congrArg some same)
    simp only [canon, packets chain depth distinct]
  | header chain depth =>
    have distinct : chain ≠ bench.chains.size := fun same => other (congrArg some same)
    simp only [canon, headerAt?, packets chain depth distinct]
  | copy serial => rfl

/-- A new copy gives out its number and no other. -/
theorem issued_push_copy (bench : Workbench) (memory : Memory) (header : Header) (object : Object) :
    Issued { bench with memory, copies := bench.copies.push header } object ↔
      bench.Issued object ∨ object = .copy bench.copies.size := by
  cases object with
  | packet chain depth => simp [Issued]
  | header chain depth => simp [Issued]
  | copy serial =>
    simp only [Issued, Array.size_push, Object.copy.injEq]
    omega

/-- A new chain gives out its number and no other. -/
theorem issued_push_chain (bench : Workbench) (memory : Memory) (entry : Option Packet)
    (object : Object) :
    Issued { bench with memory, chains := bench.chains.push entry } object ↔
      bench.Issued object ∨ object.chain? = some bench.chains.size := by
  cases object with
  | packet chain depth =>
    simp only [Issued, Array.size_push, Object.chain?, Option.some.injEq]
    omega
  | header chain depth =>
    simp only [Issued, Array.size_push, Object.chain?, Option.some.injEq]
    omega
  | copy serial => simp [Issued, Object.chain?]

/-- A bench with one more copy comes after the first one, if what it remembers does. -/
theorem becomes_push_copy {memory : Memory} (advance : bench.memory.Advances region memory)
    (header : Header) :
    bench.Becomes region { bench with memory, copies := bench.copies.push header } := by
  refine ⟨advance, fun _ _ known => known, fun serial other known => ?_,
    fun _ _ known => .inl known⟩
  have below : serial ≠ bench.copies.size := Nat.ne_of_lt (Array.getElem?_eq_some_iff.mp known).1
  simp only [Array.getElem?_push, if_neg below, known]

/-- A bench with one more chain comes after the first one, if what it remembers does and the packet
in the chain, if any, was made by a builder. -/
theorem becomes_push_chain {memory : Memory} (advance : bench.memory.Advances region memory)
    (entry : Option Packet)
    (made : ∀ packet, entry = some packet → ∃ builder : Builder,
      builder.Buildable ∧ builder.plainBuild = packet) :
    bench.Becomes region { bench with memory, chains := bench.chains.push entry } := by
  refine ⟨advance, fun number known content => ?_, fun _ _ known => known,
    fun number packet known => ?_⟩
  · have below : number ≠ bench.chains.size :=
      Nat.ne_of_lt (Array.getElem?_eq_some_iff.mp content).1
    simp only [Array.getElem?_push, if_neg below, content]
  · by_cases last : number = bench.chains.size
    · simp only [Array.getElem?_push, if_pos last] at known
      exact .inr (made packet (Option.some.inj known))
    · simp only [Array.getElem?_push, if_neg last] at known
      exact .inl known

/-- A copy of a header on a sound bench leads to a sound bench. -/
theorem leads_duplicate {object : Object} {header : Header} (sound : bench.Sound)
    (known : bench.headerAt? object = some header) :
    Leads { cell | cell.object = .copy bench.copies.size } (duplicate object header) bench := by
  have distinct : object ≠ .copy bench.copies.size :=
    fun same => not_issued_of_next_copy same (issued_of_headerAt? known)
  have left : bench.after (duplicate object header) =
      { bench with
        memory :=
          { bench.memory with
            bank := copyCells object (.copy bench.copies.size) bench.memory.bank }
        copies := bench.copies.push header } := rfl
  have starts := get?_copyCells_self distinct bench.memory.bank
  have others : ∀ cell : Cell, cell.object ≠ .copy bench.copies.size →
      (copyCells object (.copy bench.copies.size) bench.memory.bank).get? cell =
        bench.memory.bank.get? cell :=
    fun _ other => get?_copyCells_of_ne bench.memory.bank other
  generalize copyCells object (.copy bench.copies.size) bench.memory.bank = copied
    at left starts others
  constructor
  · rw [left]
    refine becomes_push_copy ⟨fun cell value full => ?_, others⟩ header
    have other : cell.object ≠ .copy bench.copies.size := by
      intro same
      have vacant := sound.fresh cell (not_issued_of_next_copy same)
      cases vacant.symm.trans full
    exact (others cell other).trans full
  · rw [left]
    constructor
    · intro cell held right full laid
      by_cases new : cell.object = .copy bench.copies.size
      · obtain ⟨_, view⟩ := cell
        obtain rfl : _ = Object.copy bench.copies.size := new
        have source : bench.memory.bank.get? ⟨object, view⟩ = some held :=
          (starts view).symm.trans full
        have meant : right = header.meaning view := by
          simp only [canon, headerAt?, Array.getElem?_push_size, Option.map_some] at laid
          exact (Option.some.inj laid).symm
        rw [meant]
        exact sound.coherent ⟨object, view⟩ held _ source (denoted_of_headerAt? known view)
      · rw [canon_push_copy bench _ header new] at laid
        exact sound.coherent cell held right ((others cell new).symm.trans full) laid
    · intro cell missing
      rw [issued_push_copy, not_or] at missing
      exact (others cell missing.2).trans (sound.fresh cell missing.1)

/-- A build puts the packet under the next chain number; if it fails, the number is used up. -/
theorem build_apply (bench : Workbench) (builder : Builder) :
    build builder bench =
      match builder.build bench.chains.size [] bench.memory with
      | .ok packet memory =>
        .ok bench.chains.size
          { bench with memory, chains := bench.chains.push (some packet) }
      | .error halt memory =>
        .error (.ofHalt halt) { bench with memory, chains := bench.chains.push none } := by
  have filled : ∀ packet, (bench.chains.push none).set! bench.chains.size (some packet) =
      bench.chains.push (some packet) := by
    intro packet
    rw [Array.set!_eq_setIfInBounds, Array.setIfInBounds_def, dif_pos (by simp), Array.set_push,
      dif_neg (Nat.lt_irrefl _)]
  cases outcome : builder.build bench.chains.size [] bench.memory with
  | ok packet memory =>
    simp only [← filled, build, get_bind_apply, modify_bind_apply]
    simp only [access, Memo.Eval.perform, Bind.bind, EStateM.bind, outcome]
    rfl
  | error halt memory =>
    simp only [build, get_bind_apply, modify_bind_apply]
    simp only [access, Memo.Eval.perform, Bind.bind, EStateM.bind, outcome]

/-- A chain whose build failed lays down nothing. -/
theorem canon_push_none (bench : Workbench) (memory : Memory) {cell : Cell}
    (new : cell.object.chain? = some bench.chains.size) :
    canon { bench with memory, chains := bench.chains.push none } cell = none := by
  obtain ⟨object, view⟩ := cell
  cases object with
  | packet chain depth =>
    obtain rfl : chain = bench.chains.size := Option.some.inj new
    simp [canon, packetAt?]
  | header chain depth =>
    obtain rfl : chain = bench.chains.size := Option.some.inj new
    simp [canon, headerAt?, packetAt?]
  | copy serial => cases new

/-- The canon of a bench with one more packet lays down the views of that packet. -/
theorem denoted_push_chain (bench : Workbench) (packet : Packet) :
    packet.Denoted (canon { bench with chains := bench.chains.push (some packet) })
      bench.chains.size := by
  have held : Holds { bench with chains := bench.chains.push (some packet) }
      ⟨bench.chains.size, packet⟩ :=
    ⟨packet, Array.getElem?_push_size, Chain.mem_walk_self _⟩
  exact held.denoted

/-- What a sound bench remembers is also coherent with a chain more, of which no cell is filled. -/
theorem Sound.coherent_push_chain (sound : bench.Sound) (entry : Option Packet) :
    bench.memory.bank.Coherent (canon { bench with chains := bench.chains.push entry }) := by
  intro cell held right full laid
  by_cases new : cell.object.chain? = some bench.chains.size
  · cases (sound.fresh cell (not_issued_of_next new)).symm.trans full
  · rw [canon_push_chain bench bench.memory _ new] at laid
    exact sound.coherent cell held right full laid

/-- A build on a sound bench: it makes the packet of its builder under the next chain number if the
builder is buildable, and fails otherwise. Either way only cells of the new chain are filled, and
the number has been given out. -/
theorem build_cases (sound : bench.Sound) (builder : Builder) :
    ∃ reached : Workbench,
      bench.Becomes { cell | cell.object.chain? = some bench.chains.size } reached ∧
      reached.Sound ∧
      ((builder.Buildable ∧ build builder bench = .ok bench.chains.size reached ∧
          reached.chains[bench.chains.size]? = some (some builder.plainBuild)) ∨
        (¬ builder.Buildable ∧
          ∃ cause, build builder bench = .error (.faulted cause) reached)) := by
  obtain ⟨memory, advance, kept, outcome⟩ :=
    Builder.build_outcome (denoted_push_chain bench builder.plainBuild)
      (fun _ _ => sound.fresh _ (not_issued_of_next rfl)) (sound.coherent_push_chain _)
  have inside :
      bench.memory.Advances { cell | cell.object.chain? = some bench.chains.size } memory :=
    advance.mono (reach_subset_chain _ _ _)
  have fresh : ∀ (entry : Option Packet) (cell : Cell),
      ¬ Issued { bench with memory, chains := bench.chains.push entry } cell.object →
      memory.bank.get? cell = none := by
    intro entry cell missing
    rw [issued_push_chain, not_or] at missing
    rw [inside.spares cell missing.2]
    exact sound.fresh cell missing.1
  rw [build_apply]
  rcases outcome with ⟨buildable, built, -⟩ | ⟨unbuildable, cause, interrupted, failed⟩
  · have change := becomes_push_chain inside (some builder.plainBuild) fun packet made =>
      ⟨builder, buildable, Option.some.inj made⟩
    refine ⟨_, change, ⟨kept, fresh _⟩, .inl ⟨buildable, ?_, Array.getElem?_push_size⟩⟩
    rw [built]
  · have change := becomes_push_chain inside none fun _ made => by cases made
    refine ⟨_, change, ⟨?_, fresh _⟩, .inr ⟨unbuildable, cause, ?_⟩⟩
    · refine kept.anti fun cell value laid => ?_
      by_cases new : cell.object.chain? = some bench.chains.size
      · rw [canon_push_none bench memory new] at laid
        cases laid
      · rw [canon_push_chain bench memory none new] at laid
        rw [canon_push_chain bench bench.memory (some builder.plainBuild) new]
        exact laid
    · rw [failed]
      rfl

/-- A build on a sound bench leads to a sound bench. -/
theorem leads_build (sound : bench.Sound) (builder : Builder) :
    Leads { cell | cell.object.chain? = some bench.chains.size } (build builder) bench := by
  obtain ⟨reached, change, kept, outcome⟩ := build_cases sound builder
  have left : bench.after (build builder) = reached := by
    rcases outcome with ⟨-, returned, -⟩ | ⟨-, cause, failed⟩
    · simp only [after, returned]
    · simp only [after, failed]
  exact ⟨left ▸ change, left ▸ kept⟩

end Encapsulation.Workbench
