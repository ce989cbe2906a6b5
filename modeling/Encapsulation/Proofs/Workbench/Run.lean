import Encapsulation.Proofs.Workbench.Action

/-!
# Runs on sound workbenches

Every operation leads from a sound bench to a sound bench, and so does every run. An operation
touches the cells of the objects that it works on, and of new objects; so a run leaves every object
alone that was there before it and that none of its operations works on.
-/
namespace Encapsulation

/-- The objects that an operation may compute anything of. Copying a header and building a packet
work on none that is there already. -/
def Operation.WorksOn : Operation → Object → Prop
  | read chain _ _, object => object.chain? = some chain
  | readHeader chain _ _, object => object.chain? = some chain
  | readCopy serial _, object => object = .copy serial
  | equals chain _ otherChain _, object =>
    object.chain? = some chain ∨ object.chain? = some otherChain
  | headersEqual left right, object => left.Covers object ∨ right.Covers object
  | copyHeader _ _, _ => False
  | copyCopy _, _ => False
  | find _ _ _, _ => False
  | findOuter _ _ _, _ => False
  | dump _ _, _ => False
  | dumpHeader _, _ => False
  | reopen _ _, _ => False
  | build _, _ => False
  | rebuild _ _, _ => False

namespace Workbench

variable {bench : Workbench} {region : Set Cell}

/-- The cells that an operation may fill on a bench. -/
def touched (bench : Workbench) (operation : Operation) : Set Cell :=
  { cell | operation.WorksOn cell.object ∨ ¬ bench.Issued cell.object }

/-- A view of a packet on a sound bench leads to a sound bench. -/
theorem leads_read (sound : bench.Sound) {target : Located} (held : bench.Holds target)
    (view : View) :
    Leads { cell | cell.object.chain? = some target.chain } (read target view) bench :=
  (leads_access sound (Packet.read_meets held.denoted view) fun _ member =>
    held.issued (reach_subset_chain _ _ _ member)).mono (reach_subset_chain _ _ _)

/-- A view of a header on a sound bench leads to a sound bench. -/
theorem leads_header {object : Object} {header : Header} (sound : bench.Sound)
    (known : bench.headerAt? object = some header) (view : View) :
    Leads { cell | cell.object = object } (access (header.read object view)) bench := by
  have given : ∀ cell ∈ object.cells 4, bench.Issued cell.object :=
    fun _ member => member.1 ▸ issued_of_headerAt? known
  exact (leads_access sound (meets_of_headerAt? known view) given).mono fun _ member => member.1

/-- A view of the header of a packet on a sound bench leads to a sound bench. -/
theorem leads_readHeader (sound : bench.Sound) {target : Located} (held : bench.Holds target)
    (view : View) :
    Leads { cell | cell.object.chain? = some target.chain } (readHeader target view) bench := by
  unfold readHeader
  cases present : target.packet.header? with
  | none => exact .pure _ sound _
  | some header =>
    refine ((leads_header sound (held.headerAt?.trans present) view).map _).mono ?_
    intro cell inside
    exact congrArg Object.chain? inside

/-- A view of a copy on a sound bench leads to a sound bench. -/
theorem leads_readCopy (sound : bench.Sound) (serial : Nat) (view : View) :
    Leads { cell | cell.object = .copy serial } (readCopy serial view) bench := by
  refine leads_of_returns rfl ?_
  cases known : bench.copies[serial]? with
  | none => exact .throw _ sound _
  | some header =>
    have found : bench.headerAt? (.copy serial) = some header := known
    exact leads_header sound found view

/-- A copy of the header of a packet on a sound bench leads to a sound bench. -/
theorem leads_copyHeader (sound : bench.Sound) {target : Located} (held : bench.Holds target) :
    Leads { cell | cell.object = .copy bench.copies.size } (copyHeader target) bench := by
  unfold copyHeader
  cases present : target.packet.header? with
  | none => exact .pure _ sound _
  | some header => exact (leads_duplicate sound (held.headerAt?.trans present)).map _

/-- A copy of a copy on a sound bench leads to a sound bench. -/
theorem leads_copyCopy (sound : bench.Sound) (serial : Nat) :
    Leads { cell | cell.object = .copy bench.copies.size } (copyCopy serial) bench := by
  refine leads_of_returns rfl ?_
  cases known : bench.copies[serial]? with
  | none => exact .throw _ sound _
  | some header =>
    have found : bench.headerAt? (.copy serial) = some header := known
    exact leads_duplicate sound found

/-- A comparison of packets on a sound bench leads to a sound bench. -/
theorem leads_equals (sound : bench.Sound) {left right : Located} (held : bench.Holds left)
    (otherHeld : bench.Holds right) :
    Leads
      { cell | cell.object.chain? = some left.chain ∨ cell.object.chain? = some right.chain }
      (equals left right) bench := by
  have within : reach left.chain left.packet.depth 1 ∪ reach right.chain right.packet.depth 1 ⊆
      { cell | cell.object.chain? = some left.chain ∨ cell.object.chain? = some right.chain } :=
    Set.union_subset (fun _ member => .inl (reach_subset_chain _ _ _ member))
      fun _ member => .inr (reach_subset_chain _ _ _ member)
  refine leads_access sound (Packet.equals_meets held.denoted otherHeld.denoted (held.kin otherHeld)
    within) ?_
  rintro cell (inside | inside)
  · exact held.issued inside
  · exact otherHeld.issued inside

/-- A comparison of headers on a sound bench leads to a sound bench. -/
theorem leads_headersEqual (sound : bench.Sound) (left right : Site) :
    Leads { cell | left.Covers cell.object ∨ right.Covers cell.object }
      (headersEqual left right) bench := by
  refine leads_locateHeader sound left (fun object header known covered => ?_) ?_
  · refine leads_locateHeader sound right (fun otherObject other otherKnown otherCovered => ?_)
      (.pure _ sound _)
    have compared := leads_access sound (equals_meets_of_headerAt? known otherKnown)
      (issued_of_mem_cells known otherKnown)
    refine (compared.mono fun cell inside => ?_).bind_pure
    rcases inside with inside | inside
    · exact .inl (inside.1 ▸ covered)
    · exact .inr (inside.1 ▸ otherCovered)
  · exact leads_locateHeader sound right (fun _ _ _ _ => .pure _ sound _) (.pure _ sound _)

/-- Every operation leads from a sound bench to a sound bench, and touches the cells of the objects
that it works on and of new objects only. -/
theorem leads_perform (sound : bench.Sound) (operation : Operation) :
    Leads (bench.touched operation) operation.perform bench := by
  cases operation with
  | read chain position view =>
    refine leads_locate sound chain position fun target held same => ?_
    exact ((leads_read sound held view).mono fun _ inside => .inl (same ▸ inside)).bind_pure
  | readHeader chain position view =>
    refine leads_locate sound chain position fun target held same => ?_
    have within : { cell | cell.object.chain? = some target.chain } ⊆
        bench.touched (.readHeader chain position view) := fun _ inside => .inl (same ▸ inside)
    refine ((leads_readHeader sound held view).mono within).bind fun value _ _ kept => ?_
    cases value <;> exact .pure _ kept _
  | readCopy serial view =>
    exact ((leads_readCopy sound serial view).mono fun _ inside => .inl inside).bind_pure
  | copyHeader chain position =>
    refine leads_locate sound chain position fun target held same => ?_
    have within : { cell | cell.object = .copy bench.copies.size } ⊆
        bench.touched (.copyHeader chain position) :=
      fun _ new => .inr (not_issued_of_next_copy new)
    refine ((leads_copyHeader sound held).mono within).bind fun value _ _ kept => ?_
    cases value <;> exact .pure _ kept _
  | copyCopy serial =>
    exact ((leads_copyCopy sound serial).mono fun _ new =>
      .inr (not_issued_of_next_copy new)).bind_pure
  | equals chain position otherChain otherPosition =>
    refine leads_locate sound chain position fun left held same => ?_
    refine leads_locate sound otherChain otherPosition fun right otherHeld otherSame => ?_
    refine ((leads_equals sound held otherHeld).mono fun _ inside => .inl ?_).bind_pure
    exact same ▸ otherSame ▸ inside
  | headersEqual left right =>
    exact (leads_headersEqual sound left right).mono fun _ inside => .inl inside
  | find chain position kind =>
    exact leads_locate sound chain position fun target held same => .pure _ sound _
  | findOuter chain position kind =>
    exact leads_locate sound chain position fun target held same => .pure _ sound _
  | dump chain position =>
    exact leads_locate sound chain position fun target held same =>
      leads_of_returns rfl (.pure _ sound _)
  | dumpHeader site =>
    exact leads_locateHeader sound site
      (fun object header _ _ => leads_of_returns rfl (.pure _ sound _)) (.pure _ sound _)
  | reopen chain position =>
    exact leads_locate sound chain position fun target held same => .pure _ sound _
  | build builder =>
    exact ((leads_build sound builder).mono fun _ new => .inr (not_issued_of_next new)).bind_pure
  | rebuild chain position =>
    refine leads_locate sound chain position fun target held same => ?_
    exact ((leads_build sound target.packet.reopen).mono fun _ new =>
      .inr (not_issued_of_next new)).bind_pure

/-- A bench of any packets and copies that remembers nothing is sound. -/
theorem sound_start (chains : Array (Option Packet)) (copies : Array Header) :
    Sound ⟨.initial, chains, copies⟩ := by
  have vacant : ∀ cell : Cell, (Memo.State.initial : Memory).bank.get? cell = none :=
    fun cell => Memo.Bank.get?_empty cell
  refine ⟨fun cell held right full _ => ?_, fun cell _ => vacant cell⟩
  cases (vacant cell).symm.trans full

/-- Every run leads from a sound bench to a sound bench. -/
theorem run_leads (sound : bench.Sound) (operations : List Operation) :
    bench.Becomes Set.univ (bench.run operations) ∧ (bench.run operations).Sound := by
  induction operations generalizing bench with
  | nil => exact ⟨.refl _ bench, sound⟩
  | cons operation rest ih =>
    obtain ⟨change, kept⟩ := leads_perform sound operation
    obtain ⟨later, final⟩ := ih kept
    exact ⟨(change.mono (Set.subset_univ _)).trans later, final⟩

/-- A run leaves the cells of an object as they are if the object was there before it and no
operation works on it. -/
theorem run_spares (sound : bench.Sound) {operations : List Operation} {cell : Cell}
    (issued : bench.Issued cell.object)
    (idle : ∀ operation ∈ operations, ¬ operation.WorksOn cell.object) :
    (bench.run operations).memory.bank.get? cell = bench.memory.bank.get? cell := by
  induction operations generalizing bench with
  | nil => rfl
  | cons operation rest ih =>
    obtain ⟨change, kept⟩ := leads_perform sound operation
    have outside : cell ∉ bench.touched operation := by
      rintro (worked | unissued)
      · exact idle operation List.mem_cons_self worked
      · exact unissued issued
    have onward : ((bench.after operation.perform).run rest).memory.bank.get? cell =
        (bench.after operation.perform).memory.bank.get? cell :=
      ih kept (change.issued issued) fun later member =>
        idle later (List.mem_cons_of_mem operation member)
    exact onward.trans (change.memory.spares cell outside)

end Workbench

end Encapsulation
