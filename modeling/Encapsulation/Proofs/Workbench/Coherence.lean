import Encapsulation.Proofs.Workbench.Run

/-!
# Coherence of runs

On a bench of any packets that starts with nothing remembered, every run of operations leaves only
meanings in the cells, whichever of its operations failed. So the order in which views are asked
for never shows in a value.
-/
namespace Encapsulation.Workbench

open Memo.Eval (Meets)

variable {bench : Workbench}

/-- Every filled cell of a packet or header on a bench holds the meaning of its view. -/
structure Faithful (bench : Workbench) : Prop where
  /-- The cells of packets. -/
  packets : ∀ target, bench.Holds target → ∀ view held,
    bench.memory.bank.get? ⟨target.packet.object target.chain, view⟩ = some held →
      held = target.packet.meaning view
  /-- The cells of the headers of layers, and of copies. -/
  headers : ∀ object header, bench.headerAt? object = some header → ∀ view held,
    bench.memory.bank.get? ⟨object, view⟩ = some held → held = header.meaning view

/-- Every view that a bench shows is the meaning of that view. -/
structure Truthful (bench : Workbench) : Prop where
  /-- The views of packets. -/
  packets : ∀ target, bench.Holds target → ∀ view value reached,
    read target view bench = .ok value reached → value = target.packet.meaning view
  /-- The views of the headers of layers. -/
  headers : ∀ target, bench.Holds target → ∀ view value reached,
    readHeader target view bench = .ok value reached →
      value = target.packet.header?.map (·.meaning view)
  /-- The views of copies. -/
  copies : ∀ serial view value reached, readCopy serial view bench = .ok value reached →
    ∃ header, bench.copies[serial]? = some header ∧ value = header.meaning view
  /-- The verdicts of comparisons, which are those by the fields. -/
  verdicts : ∀ left, bench.Holds left → ∀ right, bench.Holds right → ∀ verdict reached,
    equals left right bench = .ok verdict reached →
      verdict = left.packet.plainEquals right.packet
  /-- The verdicts of comparisons of headers. -/
  headerVerdicts : ∀ left, bench.Holds left → ∀ right, bench.Holds right → ∀ verdict reached,
    headerEquals? left right bench = .ok verdict reached →
      verdict = left.packet.plainHeaderEquals? right.packet

/-- Two benches show the same views of a packet and of its header, where both show them. -/
structure ShowsAlike (bench other : Workbench) (target : Located) : Prop where
  /-- The views of the packet. -/
  packets : ∀ view value reached again elsewhere, read target view bench = .ok value reached →
    read target view other = .ok again elsewhere → value = again
  /-- The views of its header. -/
  headers : ∀ view value reached again elsewhere, readHeader target view bench = .ok value reached →
    readHeader target view other = .ok again elsewhere → value = again

/-- Two truthful benches show the same views of every packet that both of them hold. -/
theorem Truthful.showsAlike {other : Workbench} {target : Located} (truthful : bench.Truthful)
    (otherTruthful : other.Truthful) (held : bench.Holds target) (otherHeld : other.Holds target) :
    bench.ShowsAlike other target where
  packets view value reached again elsewhere first second := by
    have value_meant := truthful.packets target held view value reached first
    have again_meant := otherTruthful.packets target otherHeld view again elsewhere second
    exact value_meant.trans again_meant.symm
  headers view value reached again elsewhere first second := by
    have value_meant := truthful.headers target held view value reached first
    have again_meant := otherTruthful.headers target otherHeld view again elsewhere second
    exact value_meant.trans again_meant.symm

/-- A sound bench is faithful. -/
theorem Sound.faithful (sound : bench.Sound) : bench.Faithful where
  packets _ known view held full := sound.coherent _ held _ full (known.denoted.view view)
  headers _ _ known view held full := sound.coherent _ held _ full (denoted_of_headerAt? known view)

/-- A view of a header on a sound bench returns its meaning. -/
theorem Sound.header_returns {object : Object} {header : Header} (sound : bench.Sound)
    (known : bench.headerAt? object = some header) (view : View) :
    ∃ reached, access (header.read object view) bench = .ok (header.meaning view) reached := by
  obtain ⟨reached, -, -, outcome⟩ := access_outcome sound (meets_of_headerAt? known view)
    fun _ member => member.1 ▸ issued_of_headerAt? known
  rcases outcome with ⟨-, returned⟩ | ⟨unfit, -⟩
  · exact ⟨reached, returned⟩
  · exact absurd trivial unfit

/-- A view of a packet on a sound bench returns its meaning if it is ready, and fails otherwise. -/
theorem Sound.read_outcome {target : Located} (sound : bench.Sound) (held : bench.Holds target)
    (view : View) :
    ∃ reached,
      (target.packet.Ready target.chain bench.memory.bank view ∧
          read target view bench = .ok (target.packet.meaning view) reached) ∨
        (¬ target.packet.Ready target.chain bench.memory.bank view ∧
          ∃ cause, read target view bench = .error (.faulted cause) reached) := by
  obtain ⟨reached, -, -, outcome⟩ := access_outcome sound (Packet.read_meets held.denoted view)
    fun _ member => held.issued (reach_subset_chain _ _ _ member)
  rcases outcome with ⟨fit, returned⟩ | ⟨unfit, cause, -, failed⟩
  · exact ⟨reached, .inl ⟨fit, returned⟩⟩
  · exact ⟨reached, .inr ⟨unfit, cause, failed⟩⟩

/-- A view of the header of a packet on a sound bench returns its meaning, if there is a header. -/
theorem Sound.readHeader_returns {target : Located} (sound : bench.Sound)
    (held : bench.Holds target) (view : View) :
    ∃ reached, readHeader target view bench =
      .ok (target.packet.header?.map (·.meaning view)) reached := by
  unfold readHeader
  cases present : target.packet.header? with
  | none => exact ⟨bench, rfl⟩
  | some header =>
    obtain ⟨reached, returned⟩ := sound.header_returns (held.headerAt?.trans present) view
    refine ⟨reached, ?_⟩
    simp only [Functor.map, EStateM.map, returned, Option.map_some]

/-- A view of a copy on a sound bench returns its meaning. -/
theorem Sound.readCopy_returns {serial : Nat} {header : Header} (sound : bench.Sound)
    (known : bench.copies[serial]? = some header) (view : View) :
    ∃ reached, readCopy serial view bench = .ok (header.meaning view) reached := by
  have found : bench.headerAt? (.copy serial) = some header := known
  obtain ⟨reached, returned⟩ := sound.header_returns found view
  refine ⟨reached, ?_⟩
  simp only [readCopy, get_bind_apply, known]
  exact returned

/-- A comparison on a sound bench returns the verdict by the fields if it is ready, and fails
otherwise. -/
theorem Sound.equals_outcome {left right : Located} (sound : bench.Sound)
    (held : bench.Holds left) (otherHeld : bench.Holds right) :
    ∃ reached,
      (left.packet.EqualsReady right.chain bench.memory.bank right.packet ∧
          equals left right bench = .ok (left.packet.plainEquals right.packet) reached) ∨
        (¬ left.packet.EqualsReady right.chain bench.memory.bank right.packet ∧
          ∃ cause, equals left right bench = .error (.faulted cause) reached) := by
  have met := Packet.equals_meets held.denoted otherHeld.denoted (held.kin otherHeld) subset_rfl
  obtain ⟨reached, -, -, outcome⟩ := access_outcome sound met fun cell inside => by
    rcases inside with inside | inside
    · exact held.issued (reach_subset_chain _ _ _ inside)
    · exact otherHeld.issued (reach_subset_chain _ _ _ inside)
  rcases outcome with ⟨fit, returned⟩ | ⟨unfit, cause, -, failed⟩
  · exact ⟨reached, .inl ⟨fit, returned⟩⟩
  · exact ⟨reached, .inr ⟨unfit, cause, failed⟩⟩

/-- A comparison of the headers of two packets on a sound bench returns the verdict by the fields. -/
theorem Sound.headerEquals?_returns {left right : Located} (sound : bench.Sound)
    (held : bench.Holds left) (otherHeld : bench.Holds right) :
    ∃ reached, headerEquals? left right bench =
      .ok (left.packet.plainHeaderEquals? right.packet) reached := by
  have met : Meets bench.canon
      (left.packet.headerEquals? left.chain right.chain right.packet)
      ⟨(left.packet.headerObject left.chain).cells 1 ∪
          (right.packet.headerObject right.chain).cells 1,
        fun _ => True, fun _ _ => True, left.packet.plainHeaderEquals? right.packet⟩ :=
    Packet.headerEquals?_meets held.denoted otherHeld.denoted (held.kin otherHeld) subset_rfl
  obtain ⟨reached, -, -, outcome⟩ := access_outcome sound met fun cell inside => by
    rcases inside with inside | inside
    · exact held.issued (congrArg Object.chain? inside.1)
    · exact otherHeld.issued (congrArg Object.chain? inside.1)
  rcases outcome with ⟨-, returned⟩ | ⟨unfit, -⟩
  · exact ⟨reached, returned⟩
  · exact absurd trivial unfit

/-- A comparison of two headers on a sound bench returns the verdict by the fields. -/
theorem Sound.header_equals_returns {object otherObject : Object} {header other : Header}
    (sound : bench.Sound) (known : bench.headerAt? object = some header)
    (otherKnown : bench.headerAt? otherObject = some other) :
    ∃ reached, access (header.equals object otherObject other) bench =
      .ok (header.plainEquals other) reached := by
  obtain ⟨reached, -, -, outcome⟩ := access_outcome sound
    (equals_meets_of_headerAt? known otherKnown) (issued_of_mem_cells known otherKnown)
  rcases outcome with ⟨-, returned⟩ | ⟨unfit, -⟩
  · exact ⟨reached, returned⟩
  · exact absurd trivial unfit

/-- A sound bench is truthful. -/
theorem Sound.truthful (sound : bench.Sound) : bench.Truthful := by
  refine ⟨fun target known view value reached returned => ?_,
    fun target known view value reached returned => ?_,
    fun serial view value reached returned => ?_,
    fun left known right otherKnown verdict reached returned => ?_,
    fun left known right otherKnown verdict reached returned => ?_⟩
  · obtain ⟨_, ⟨-, meant⟩ | ⟨-, cause, failed⟩⟩ := sound.read_outcome known view
    · exact (EStateM.Result.ok.inj (returned.symm.trans meant)).1
    · cases returned.symm.trans failed
  · obtain ⟨_, meant⟩ := sound.readHeader_returns known view
    exact (EStateM.Result.ok.inj (returned.symm.trans meant)).1
  · cases known : bench.copies[serial]? with
    | none =>
      simp only [readCopy, get_bind_apply, known] at returned
      cases returned
    | some header =>
      obtain ⟨_, meant⟩ := sound.readCopy_returns known view
      exact ⟨header, rfl, (EStateM.Result.ok.inj (returned.symm.trans meant)).1⟩
  · obtain ⟨_, ⟨-, meant⟩ | ⟨-, cause, failed⟩⟩ := sound.equals_outcome known otherKnown
    · exact (EStateM.Result.ok.inj (returned.symm.trans meant)).1
    · cases returned.symm.trans failed
  · obtain ⟨_, meant⟩ := sound.headerEquals?_returns known otherKnown
    exact (EStateM.Result.ok.inj (returned.symm.trans meant)).1

/-- From a store of any packets and copies of headers of which nothing is remembered, and after any
run of operations: every filled cell holds the meaning of its view and keeps it, whatever is done
later; every view that is shown is its meaning; the packets of the store are still there, and no
other run makes the same view of the same packet show anything else; and what is done later leaves
alone the cells of every object that it does not work on, such as those of a header that was copied
or of a packet that was rebuilt. -/
theorem run_remembers_meanings (chains : Array (Option Packet)) (copies : Array Header)
    (history later : List Operation) :
    let start : Workbench := ⟨.initial, chains, copies⟩
    let bench := start.run history
    bench.Faithful ∧ bench.Truthful ∧
      (∀ cell held, bench.memory.bank.get? cell = some held →
        (bench.run later).memory.bank.get? cell = some held) ∧
      (∀ target, start.Holds target → bench.Holds target) ∧
      (∀ (other : List Operation) (target : Located), bench.Holds target →
        (start.run other).Holds target → bench.ShowsAlike (start.run other) target) ∧
      ∀ cell : Cell, bench.Issued cell.object →
        (∀ operation ∈ later, ¬ operation.WorksOn cell.object) →
        (bench.run later).memory.bank.get? cell = bench.memory.bank.get? cell := by
  intro start bench
  obtain ⟨change, sound⟩ := run_leads (sound_start chains copies) history
  refine ⟨sound.faithful, sound.truthful, ?_, fun _ held => change.holds held, ?_, ?_⟩
  · exact (run_leads sound later).1.memory.keeps
  · intro other target held otherHeld
    obtain ⟨-, otherSound⟩ := run_leads (sound_start chains copies) other
    exact sound.truthful.showsAlike otherSound.truthful held otherHeld
  · intro cell issued idle
    exact run_spares sound issued idle

/-- A layer whose length is given as nine, around two bytes. -/
def mismatched : Packet :=
  .wrap (.custom ⟨.root "Long" (.custom "long"), none, none, .fixed 9⟩) (.unknown [1, 2])

/-- After its length was shown and its bytes failed, the layer remembers both, and building it anew
and showing the text of the new packet changes neither. -/
theorem mismatched_remembers_meanings :
    let bench := run ⟨.initial, #[some mismatched], #[]⟩ [.read 0 0 .length, .read 0 0 .bytes]
    let after := bench.run [.rebuild 0 0, .read 1 0 .text]
    (∃ reached, read ⟨0, mismatched⟩ .bytes bench =
        .error (.faulted (.mismatch (.root "Long" (.custom "long")) 2 9)) reached) ∧
      after.memory.bank.get? (Cell.mk (.packet 0 2) .length) = some (9 : Nat) ∧
      after.memory.bank.get? (Cell.mk (.packet 0 2) .bytes) = some ([1, 2] : Bytes) ∧
      after.memory.bank.get? (Cell.mk (.packet 0 2) .text) = none := by
  intro bench after
  obtain ⟨-, -, keeps, -, -, spares⟩ := run_remembers_meanings #[some mismatched] #[]
    [.read 0 0 .length, .read 0 0 .bytes] [.rebuild 0 0, .read 1 0 .text]
  have idle : ∀ operation ∈ [Operation.rebuild 0 0, .read 1 0 .text],
      ¬ operation.WorksOn (.packet 0 2) := by
    simp [Operation.WorksOn, Object.chain?]
  refine ⟨⟨_, rfl⟩, keeps _ _ rfl, keeps _ _ rfl, ?_⟩
  exact (spares ⟨.packet 0 2, .text⟩ (by decide : 0 < 1) idle).trans rfl

end Encapsulation.Workbench
