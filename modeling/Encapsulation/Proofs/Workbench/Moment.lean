import Encapsulation.Proofs.Builder.Unfold
import Encapsulation.Proofs.Workbench.Run

/-!
# Runs moment by moment

An operation does one of a few things to a bench, which `Effect` lists. A ledger of a bench has
everything that is on the bench, and besides them the packets that failed builds were about to make.
By the ledger of the bench it ends with, a run on a sound bench goes on from moment to moment.
-/
namespace Encapsulation

open Relation (ReflTransGen)

/-- An operation only asks about kinds, shows how something is built or takes a builder. -/
def Operation.Asks : Operation → Prop
  | find _ _ _ | findOuter _ _ _ | dump _ _ | dumpHeader _ | reopen _ _ => True
  | _ => False

namespace Workbench

variable {bench after ledger more : Workbench} {α : Type}

/-- What stands behind an object on a bench. -/
def itemAt? (bench : Workbench) : Object → Option Item
  | .packet chain depth => (bench.packetAt? chain depth).map .packet
  | .header chain depth => (bench.headerAt? (.header chain depth)).map .header
  | .copy serial => (bench.headerAt? (.copy serial)).map .header

/-- The book of a bench has the headers on it. -/
theorem itemAt?_of_headerAt? {object : Object} {header : Header}
    (known : bench.headerAt? object = some header) :
    bench.itemAt? object = some (.header header) := by
  cases object with
  | packet chain depth => cases known
  | header chain depth => rw [itemAt?, known, Option.map_some]
  | copy serial => rw [itemAt?, known, Option.map_some]

/-- The book of a bench lists every packet on it. -/
theorem Holds.booked {target : Located} (held : bench.Holds target) :
    target.packet.Booked bench.itemAt? target.chain := by
  intro inner member
  have inside := held.inner member
  refine ⟨?_, fun header present => itemAt?_of_headerAt? (inside.headerAt?.trans present)⟩
  rw [Packet.object, itemAt?, inside.packetAt?, Option.map_some]

/-- Everything on one bench is on another one under the same number. -/
structure Listed (bench ledger : Workbench) : Prop where
  /-- Every packet. -/
  chains : ∀ (number : Nat) (root : Packet), bench.chains[number]? = some (some root) →
    ledger.chains[number]? = some (some root)
  /-- Every copy of a header. -/
  copies : ∀ (serial : Nat) (header : Header), bench.copies[serial]? = some header →
    ledger.copies[serial]? = some header

namespace Listed

/-- Everything on a bench is on it. -/
theorem refl (bench : Workbench) : bench.Listed bench :=
  ⟨fun _ _ known => known, fun _ _ known => known⟩

/-- What is on a bench whose things are on a second one, whose things are on a third one, is on the
third one. -/
theorem trans (first : bench.Listed ledger) (second : ledger.Listed more) : bench.Listed more :=
  ⟨fun number root known => second.chains number root (first.chains number root known),
    fun serial header known => second.copies serial header (first.copies serial header known)⟩

/-- A packet on a bench is on every bench that has everything on it. -/
theorem holds (listed : bench.Listed ledger) {target : Located} (held : bench.Holds target) :
    ledger.Holds target := by
  obtain ⟨root, known, member⟩ := held
  exact ⟨root, listed.chains _ root known, member⟩

/-- The layers of a bench are found on every bench that has everything on it. -/
theorem packetAt? (listed : bench.Listed ledger) {chain depth : Nat} {packet : Packet}
    (found : bench.packetAt? chain depth = some packet) :
    ledger.packetAt? chain depth = some packet := by
  obtain ⟨root, known, member⟩ := Option.bind_eq_some_iff.mp found
  have filed := listed.chains chain root (Option.join_eq_some_iff.mp known)
  rw [Workbench.packetAt?, filed]
  exact member

/-- The headers of a bench are found on every bench that has everything on it. -/
theorem headerAt? (listed : bench.Listed ledger) {object : Object} {header : Header}
    (found : bench.headerAt? object = some header) : ledger.headerAt? object = some header := by
  cases object with
  | packet chain depth => cases found
  | header chain depth =>
    obtain ⟨packet, known, present⟩ := Option.bind_eq_some_iff.mp found
    rw [Workbench.headerAt?, listed.packetAt? known, Option.bind_some, present]
  | copy serial => exact listed.copies serial header found

/-- The book of a bench is part of the book of every bench that has everything on it. -/
theorem itemAt? (listed : bench.Listed ledger) (object : Object) (item : Item)
    (known : bench.itemAt? object = some item) : ledger.itemAt? object = some item := by
  cases object with
  | packet chain depth =>
    obtain ⟨packet, found, rfl⟩ := Option.map_eq_some_iff.mp known
    rw [Workbench.itemAt?, listed.packetAt? found, Option.map_some]
  | header chain depth =>
    obtain ⟨header, found, rfl⟩ := Option.map_eq_some_iff.mp known
    exact itemAt?_of_headerAt? (listed.headerAt? found)
  | copy serial =>
    obtain ⟨header, found, rfl⟩ := Option.map_eq_some_iff.mp known
    exact itemAt?_of_headerAt? (listed.headerAt? found)

/-- What happens by the book of a bench happens by that of every bench that has everything on it. -/
theorem moments (listed : bench.Listed ledger) {fresh : Nat} {before after : Memory}
    (moments : ReflTransGen (Moment bench.itemAt? fresh) before after) :
    ReflTransGen (Moment ledger.itemAt? fresh) before after := by
  have larger : Moment bench.itemAt? fresh ≤ Moment ledger.itemAt? fresh :=
    fun _ _ moment => moment.mono listed.itemAt? (Nat.le_refl fresh)
  exact ReflTransGen.mono larger _ _ moments

end Listed

/-- What is on a bench is on every bench after it. -/
theorem Becomes.listed {region : Set Cell} (change : bench.Becomes region after) :
    bench.Listed after :=
  ⟨fun number root known => change.chains number (some root) known, change.copies⟩

/-- A ledger of a bench has everything on it, and no number that has not been given out. -/
structure Ledger (bench ledger : Workbench) : Prop where
  /-- Everything on the bench is in the ledger. -/
  listed : bench.Listed ledger
  /-- There are as many chain numbers, those of failed builds included. -/
  chains : ledger.chains.size = bench.chains.size
  /-- There are as many serial numbers. -/
  copies : ledger.copies.size = bench.copies.size

/-- What an operation does to a bench. -/
inductive Effect (bench : Workbench) : Workbench → Prop where
  /-- Nothing. -/
  | idle : Effect bench bench
  /-- A view of a packet is asked for. -/
  | read (target : Located) (view : View) (held : bench.Holds target) :
    Effect bench (bench.after (read target view))
  /-- A view of a header is asked for. -/
  | readHeader (object : Object) (header : Header) (view : View)
    (known : bench.headerAt? object = some header) :
    Effect bench (bench.after (access (header.read object view)))
  /-- Two packets are compared. -/
  | equals (left right : Located) (held : bench.Holds left) (otherHeld : bench.Holds right) :
    Effect bench (bench.after (equals left right))
  /-- Two headers are compared. -/
  | headersEqual (object otherObject : Object) (header other : Header)
    (known : bench.headerAt? object = some header)
    (otherKnown : bench.headerAt? otherObject = some other) :
    Effect bench (bench.after (access (header.equals object otherObject other)))
  /-- A header is copied. -/
  | duplicate (object : Object) (header : Header)
    (known : bench.headerAt? object = some header) :
    Effect bench (bench.after (duplicate object header))
  /-- A packet is built. -/
  | build (builder : Builder) : Effect bench (bench.after (build builder))

/-- What is done with a located packet has the effect that it has on every packet. -/
theorem effect_locate {action : Located → Use α} (chain position : Nat)
    (effect : ∀ target, bench.Holds target → Effect bench (bench.after (action target))) :
    Effect bench (bench.after (locate chain position >>= action)) := by
  rcases locate_cases bench chain position with ⟨target, held, -, found⟩ | missing
  · rw [after_bind_of_ok found]
    exact effect target held
  · rw [after_bind_of_error missing]
    exact .idle

/-- What is done with a located header has the effect that it has on every header. -/
theorem effect_locateHeader {action : Option (Object × Header) → Use α} (site : Site)
    (effect : ∀ object header, bench.headerAt? object = some header →
      Effect bench (bench.after (action (some (object, header)))))
    (headless : Effect bench (bench.after (action none))) :
    Effect bench (bench.after (locateHeader site >>= action)) := by
  rcases locateHeader_cases bench site with ⟨object, header, known, -, found⟩ | bare | missing
  · rw [after_bind_of_ok found]
    exact effect object header known
  · rw [after_bind_of_ok bare]
    exact headless
  · rw [after_bind_of_error missing]
    exact .idle

/-- Locating a packet leaves the bench as it is. -/
theorem after_locate (bench : Workbench) (chain position : Nat) :
    bench.after (locate chain position) = bench := by
  rcases locate_cases bench chain position with ⟨target, -, -, found⟩ | missing
  · rw [after, found]
  · rw [after, missing]

/-- Locating a header leaves the bench as it is. -/
theorem after_locateHeader (bench : Workbench) (site : Site) :
    bench.after (locateHeader site) = bench := by
  rcases locateHeader_cases bench site with ⟨object, header, -, -, found⟩ | bare | missing
  · rw [after, found]
  · rw [after, bare]
  · rw [after, missing]

/-- An operation that only asks leaves the bench as it is. -/
theorem after_of_asks (bench : Workbench) {operation : Operation} (asks : operation.Asks) :
    bench.after operation.perform = bench := by
  cases operation with
  | find chain position kind =>
    exact (after_bind_of_idle fun _ _ => rfl).trans (after_locate bench chain position)
  | findOuter chain position kind =>
    exact (after_bind_of_idle fun _ _ => rfl).trans (after_locate bench chain position)
  | dump chain position =>
    exact (after_bind_of_idle fun _ _ => rfl).trans (after_locate bench chain position)
  | dumpHeader site =>
    refine (after_bind_of_idle fun found _ => ?_).trans (after_locateHeader bench site)
    cases found <;> rfl
  | reopen chain position =>
    exact (after_bind_of_idle fun _ _ => rfl).trans (after_locate bench chain position)
  | _ => exact asks.elim

/-- An operation that only asks has no effect. -/
theorem effect_of_asks {operation : Operation} (asks : operation.Asks) :
    Effect bench (bench.after operation.perform) := by
  rw [after_of_asks bench asks]
  exact .idle

/-- What an operation can do to a bench. -/
theorem effect_perform (bench : Workbench) (operation : Operation) :
    Effect bench (bench.after operation.perform) := by
  cases operation with
  | read chain position view =>
    refine effect_locate chain position fun target held => ?_
    rw [after_bind_of_idle fun _ _ => rfl]
    exact .read target view held
  | readHeader chain position view =>
    refine effect_locate chain position fun target held => ?_
    rw [after_bind_of_idle fun value _ => by cases value <;> rfl, readHeader]
    cases present : target.packet.header? with
    | none => exact .idle
    | some header =>
      simp only [after_map]
      exact .readHeader _ header view (held.headerAt?.trans present)
  | readCopy serial view =>
    rw [Operation.perform, after_bind_of_idle fun _ _ => rfl, readCopy, after_get_bind]
    cases known : bench.copies[serial]? with
    | none => exact .idle
    | some header => exact .readHeader (.copy serial) header view known
  | copyHeader chain position =>
    refine effect_locate chain position fun target held => ?_
    rw [after_bind_of_idle fun value _ => by cases value <;> rfl, copyHeader]
    cases present : target.packet.header? with
    | none => exact .idle
    | some header =>
      simp only [after_map]
      exact .duplicate _ header (held.headerAt?.trans present)
  | copyCopy serial =>
    rw [Operation.perform, after_bind_of_idle fun _ _ => rfl, copyCopy, after_get_bind]
    cases known : bench.copies[serial]? with
    | none => exact .idle
    | some header => exact .duplicate (.copy serial) header known
  | equals chain position otherChain otherPosition =>
    refine effect_locate chain position fun left held => ?_
    refine effect_locate otherChain otherPosition fun right otherHeld => ?_
    rw [after_bind_of_idle fun _ _ => rfl]
    exact .equals left right held otherHeld
  | headersEqual left right =>
    refine effect_locateHeader left (fun object header known => ?_) ?_
    · refine effect_locateHeader right (fun otherObject other otherKnown => ?_) .idle
      rw [after_bind_of_idle fun _ _ => rfl]
      exact .headersEqual object otherObject header other known otherKnown
    · exact effect_locateHeader right (fun _ _ _ => .idle) .idle
  | build builder =>
    rw [Operation.perform, after_bind_of_idle fun _ _ => rfl]
    exact .build builder
  | rebuild chain position =>
    refine effect_locate chain position fun target held => ?_
    rw [after_bind_of_idle fun _ _ => rfl]
    exact .build target.packet.reopen
  | find chain position kind =>
    refine effect_of_asks ?_
    trivial
  | findOuter chain position kind =>
    refine effect_of_asks ?_
    trivial
  | dump chain position =>
    refine effect_of_asks ?_
    trivial
  | dumpHeader site =>
    refine effect_of_asks ?_
    trivial
  | reopen chain position =>
    refine effect_of_asks ?_
    trivial

/-- An access to a bench changes what the bench remembers, in the steps in which it unfolds. -/
theorem steps_access {step : Memory → Memory → Prop} {action : Access α}
    {known : α → Memo.Bank Cell Cell.Value → Prop}
    (unfolds : Memo.Eval.Unfolds step action bench.memory known) :
    ∃ memory, bench.after (access action) = { bench with memory } ∧
      ReflTransGen step bench.memory memory := by
  refine ⟨(action.perform bench.memory).2, ?_, unfolds.steps_perform⟩
  unfold after access
  cases action.perform bench.memory with
  | mk result memory => cases result <;> rfl

/-- A ledger stays one while a bench only remembers more. -/
theorem Ledger.remember (kept : bench.Ledger ledger) (memory : Memory) :
    Ledger { bench with memory } ledger :=
  ⟨⟨kept.listed.chains, kept.listed.copies⟩, kept.chains, kept.copies⟩

/-- A ledger with one more copy has everything that it had before. -/
theorem listed_push_copy (ledger : Workbench) (header : Header) :
    ledger.Listed { ledger with copies := ledger.copies.push header } := by
  refine ⟨fun _ _ known => known, fun serial other known => ?_⟩
  have below : serial ≠ ledger.copies.size := Nat.ne_of_lt (Array.getElem?_eq_some_iff.mp known).1
  rw [Array.getElem?_push, if_neg below]
  exact known

/-- A ledger with one more packet has everything that it had before. -/
theorem listed_push_chain (ledger : Workbench) (packet : Packet) :
    ledger.Listed { ledger with chains := ledger.chains.push (some packet) } := by
  refine ⟨fun number root known => ?_, fun _ _ known => known⟩
  have below : number ≠ ledger.chains.size := Nat.ne_of_lt (Array.getElem?_eq_some_iff.mp known).1
  rw [Array.getElem?_push, if_neg below]
  exact known

/-- A ledger gets the copy that a bench gets. -/
theorem Ledger.push_copy (kept : bench.Ledger ledger) (memory : Memory) (header : Header) :
    Ledger { bench with memory, copies := bench.copies.push header }
      { ledger with copies := ledger.copies.push header } where
  listed := by
    refine ⟨kept.listed.chains, fun serial other known => ?_⟩
    rw [Array.getElem?_push] at known ⊢
    rw [kept.copies]
    by_cases last : serial = bench.copies.size
    · rw [if_pos last] at known ⊢
      exact known
    · rw [if_neg last] at known ⊢
      exact kept.listed.copies serial other known
  chains := kept.chains
  copies := by rw [Array.size_push, Array.size_push, kept.copies]

/-- A ledger gets the packet that a bench gets, or was about to get. -/
theorem Ledger.push_chain (kept : bench.Ledger ledger) (memory : Memory) {packet : Packet}
    {entry : Option Packet} (made : ∀ root, entry = some root → root = packet) :
    Ledger { bench with memory, chains := bench.chains.push entry }
      { ledger with chains := ledger.chains.push (some packet) } where
  listed := by
    refine ⟨fun number root known => ?_, kept.listed.copies⟩
    rw [Array.getElem?_push] at known ⊢
    rw [kept.chains]
    by_cases last : number = bench.chains.size
    · rw [if_pos last] at known ⊢
      rw [made root (Option.some.inj known)]
    · rw [if_neg last] at known ⊢
      exact kept.listed.chains number root known
  chains := by rw [Array.size_push, Array.size_push, kept.chains]
  copies := kept.copies

/-- A copy of a header leaves behind a bench with one copy more. -/
theorem after_duplicate (bench : Workbench) (object : Object) (header : Header) :
    bench.after (duplicate object header) =
      { bench with
        memory :=
          { bench.memory with
            bank := copyCells object (.copy bench.copies.size) bench.memory.bank }
        copies := bench.copies.push header } := rfl

/-- The start of a copy on a sound bench is one moment. -/
theorem Sound.moment_duplicate {book : Book} {fresh : Nat} (sound : bench.Sound)
    (le : fresh ≤ bench.copies.size) {object : Object} {header : Header}
    (known : bench.headerAt? object = some header) :
    Moment book fresh bench.memory
      { bench.memory with
        bank := copyCells object (.copy bench.copies.size) bench.memory.bank } := by
  have distinct : object ≠ .copy bench.copies.size :=
    fun same => not_issued_of_next_copy same (issued_of_headerAt? known)
  exact .copy bench.memory object bench.copies.size _ le
    (fun view => sound.fresh _ (not_issued_of_next_copy rfl))
    (get?_copyCells_self distinct bench.memory.bank)
    fun _ other => get?_copyCells_of_ne bench.memory.bank other

/-- A build on a sound bench leaves behind what the build of the packet leaves of the memory, and one
chain more, which holds the packet that the fields say or nothing. -/
theorem Sound.after_build (sound : bench.Sound) (builder : Builder) :
    ∃ entry : Option Packet, (∀ root, entry = some root → root = builder.plainBuild) ∧
      bench.after (build builder) =
        { bench with
          memory := ((builder.build bench.chains.size).perform bench.memory).2
          chains := bench.chains.push entry } := by
  obtain ⟨reached, -, -, outcome⟩ := build_cases sound builder
  have applied := build_apply bench builder
  unfold after Memo.Eval.perform
  cases made : builder.build bench.chains.size [] bench.memory with
  | ok packet memory =>
    rw [made] at applied
    rcases outcome with ⟨-, returned, filed⟩ | ⟨-, cause, failed⟩
    · obtain ⟨-, rfl⟩ := EStateM.Result.ok.inj (returned.symm.trans applied)
      rw [Array.getElem?_push_size] at filed
      have same : packet = builder.plainBuild := Option.some.inj (Option.some.inj filed)
      refine ⟨some packet, fun root entry => (Option.some.inj entry).symm.trans same, ?_⟩
      rw [applied]
    · cases failed.symm.trans applied
  | error halt memory =>
    rw [made] at applied
    have nothing : ∀ root, (none : Option Packet) = some root → root = builder.plainBuild := by
      intro root entry
      cases entry
    refine ⟨none, nothing, ?_⟩
    rw [applied]

/-- Whatever an effect on a sound bench is, it goes on from moment to moment by a ledger of the
bench it leaves behind, which has everything that a ledger of the bench before it has. -/
theorem Sound.moments_effect (sound : bench.Sound) (kept : bench.Ledger ledger) {fresh : Nat}
    (le : fresh ≤ bench.copies.size) (effect : Effect bench after) :
    ∃ more, ledger.Listed more ∧ after.Ledger more ∧ fresh ≤ after.copies.size ∧
      ReflTransGen (Moment more.itemAt? fresh) bench.memory after.memory := by
  have accessed : ∀ {α : Type} {action : Access α}
      {known : α → Memo.Bank Cell Cell.Value → Prop},
      Memo.Eval.Unfolds (Moment ledger.itemAt? fresh) action bench.memory known →
      ∃ more, ledger.Listed more ∧ (bench.after (access action)).Ledger more ∧
        fresh ≤ (bench.after (access action)).copies.size ∧
        ReflTransGen (Moment more.itemAt? fresh) bench.memory
          (bench.after (access action)).memory := by
    intro α action known unfolds
    obtain ⟨memory, left, moments⟩ := steps_access unfolds
    rw [left]
    exact ⟨ledger, .refl ledger, kept.remember memory, le, moments⟩
  have header : ∀ {object : Object} {header : Header}, bench.headerAt? object = some header →
      ledger.itemAt? object = some (.header header) :=
    fun known => itemAt?_of_headerAt? (kept.listed.headerAt? known)
  have follows := Moment.follows ledger.itemAt? fresh
  cases effect with
  | idle => exact ⟨ledger, .refl ledger, kept, le, .refl⟩
  | read target view held =>
    exact accessed (Packet.read_unfolds follows (kept.listed.holds held).booked view bench.memory)
  | readHeader object fields view known =>
    exact accessed (fields.read_unfolds follows (header known) view bench.memory)
  | equals left right held otherHeld =>
    exact accessed (Packet.equals_unfolds follows (kept.listed.holds held).booked
      (kept.listed.holds otherHeld).booked bench.memory)
  | headersEqual object otherObject fields other known otherKnown =>
    exact accessed (Header.equals_unfolds follows (header known) (header otherKnown) bench.memory)
  | duplicate object fields known =>
    rw [after_duplicate]
    refine ⟨_, listed_push_copy ledger fields, kept.push_copy _ fields, ?_,
      .single (sound.moment_duplicate le known)⟩
    rw [Array.size_push]
    exact Nat.le_succ_of_le le
  | build builder =>
    refine ⟨{ ledger with chains := ledger.chains.push (some builder.plainBuild) },
      listed_push_chain ledger builder.plainBuild, ?_⟩
    have held : Holds { ledger with chains := ledger.chains.push (some builder.plainBuild) }
        ⟨bench.chains.size, builder.plainBuild⟩ :=
      ⟨builder.plainBuild, kept.chains ▸ Array.getElem?_push_size, Chain.mem_walk_self _⟩
    obtain ⟨entry, made, left⟩ := sound.after_build builder
    rw [left]
    refine ⟨kept.push_chain _ made, le, ?_⟩
    exact builder.steps_build .report (denoted_push_chain bench builder.plainBuild)
      (fun draft payload member _ =>
        builder.asked_unfold (Moment.follows _ fresh) held.booked draft payload member)
      (fun _ _ => sound.fresh _ (not_issued_of_next rfl)) (sound.coherent_push_chain _)

/-- A run on a sound bench goes on from moment to moment, by a ledger of the bench it ends with that
has everything that a ledger of the bench before it has. -/
theorem Sound.moments_run (sound : bench.Sound) (kept : bench.Ledger ledger) {fresh : Nat}
    (le : fresh ≤ bench.copies.size) (operations : List Operation) :
    ∃ more, ledger.Listed more ∧ (bench.run operations).Ledger more ∧
      ReflTransGen (Moment more.itemAt? fresh) bench.memory (bench.run operations).memory := by
  induction operations generalizing bench ledger with
  | nil => exact ⟨ledger, .refl ledger, kept, .refl⟩
  | cons operation rest ih =>
    obtain ⟨-, next⟩ := leads_perform sound operation
    obtain ⟨middle, listed, recorded, fewer, moments⟩ :=
      sound.moments_effect kept le (effect_perform bench operation)
    obtain ⟨more, onward, final, others⟩ := ih next recorded fewer
    exact ⟨more, listed.trans onward, final, (onward.moments moments).trans others⟩

/-- A bench is a ledger of itself. -/
theorem Ledger.self (bench : Workbench) : bench.Ledger bench := ⟨.refl bench, rfl, rfl⟩

end Workbench

end Encapsulation
