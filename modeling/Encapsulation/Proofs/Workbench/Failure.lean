import Encapsulation.Proofs.Access.Failure
import Encapsulation.Proofs.Workbench.Coherence
import Encapsulation.Proofs.Workbench.Moment

/-!
# Failures on a bench

What a view of a packet fails for after any run, and what it leaves behind: nothing that was
remembered is lost, nothing that was being worked out is remembered, and bytes that failed once fail
in the same way for good.
-/
namespace Encapsulation.Workbench

variable {bench reached : Workbench} {target : Located} {view : View} {fault : Fault}

/-- What is left of a view of a packet that failed. -/
structure Breaks (bench reached : Workbench) (target : Located) (view : View) (fault : Fault) :
    Prop where
  /-- Some layer of the packet remembers bytes and a length that differ in number, as the fault
  tells; or the length was asked for, and that of some layer does not fit 64 bits. -/
  blame : ∃ inner : Packet, inner ∈ target.packet.walk ∧
    (inner.Clashes target.chain reached.memory.bank fault ∨
      view = .length ∧ fault = .overflow ∧ UInt64.size ≤ inner.plainLength)
  /-- Every cell that was filled is filled with the same value. -/
  keeps : ∀ cell held, bench.memory.bank.get? cell = some held →
    reached.memory.bank.get? cell = some held
  /-- Every cell whose computation was interrupted is empty. -/
  interrupted : ∃ interrupted : List Cell,
    (target.packet.read target.chain view).perform bench.memory =
        (.error (.failed fault interrupted), reached.memory) ∧
      ∀ cell ∈ interrupted, reached.memory.bank.get? cell = none
  /-- A view other than the bytes is not remembered. -/
  asked : view ≠ .bytes →
    reached.memory.bank.get? ⟨target.packet.object target.chain, view⟩ = none
  /-- If bytes were asked for, also to work out another view, then they fail again whenever they are
  asked for, for the same fault, and leave the bench as it is. -/
  sticks : view ≠ .length → ∀ later : List Operation,
    read target .bytes (reached.run later) = .error (.faulted fault) (reached.run later)

/-- Bytes that are stuck on a sound bench fail whenever they are asked for, and leave the bench as
it is. -/
theorem Sound.read_of_stuck (sound : bench.Sound) (held : bench.Holds target)
    (stuck : target.packet.Stuck target.chain bench.memory.bank fault) (later : List Operation) :
    read target .bytes (bench.run later) = .error (.faulted fault) (bench.run later) := by
  obtain ⟨ledger, -, kept, moments⟩ := sound.moments_run (.self bench) (Nat.le_refl _) later
  have heldStill : (bench.run later).Holds target := (run_leads sound later).1.holds held
  have stuckStill := stuck.many (kept.listed.holds heldStill).booked moments
  obtain ⟨interrupted, failed⟩ := stuckStill.fails (List.forall_mem_nil _)
  exact access_of_failed failed

/-- What is left of a view of a packet that failed on a sound bench. -/
theorem Sound.breaks (sound : bench.Sound) (held : bench.Holds target) {failure : Failure}
    (failed : read target view bench = .error failure reached) :
    ∃ fault, failure = .faulted fault ∧ bench.Breaks reached target view fault := by
  have left : bench.after (read target view) = reached := by rw [after, failed]
  have afterSound : reached.Sound := left ▸ (leads_read sound held view).sound
  obtain ⟨memory, advance, -, outcome⟩ := Packet.read_meets held.denoted view [] bench.memory
    (List.forall_mem_nil _) sound.coherent
  rcases outcome with ⟨-, returned⟩ | ⟨unready, fault, interrupted, halted, faulty, vacant⟩
  · cases failed.symm.trans (access_of_returned returned)
  · rw [List.append_nil] at halted
    obtain ⟨rfl, rfl⟩ := EStateM.Result.error.inj (failed.symm.trans (access_of_failed halted))
    have shown : view ≠ .text := by
      rintro rfl
      exact unready trivial
    obtain ⟨asked, stuck⟩ := Packet.read_failed held.booked shown halted
    have heldStill : Holds { bench with memory } target := held
    refine ⟨fault, rfl, ?_, advance.keeps, ⟨interrupted, ?_, vacant⟩, asked, fun differs =>
      afterSound.read_of_stuck heldStill (stuck differs)⟩
    · by_cases length : view = .length
      · obtain ⟨inner, member, clashes | overflow⟩ := faulty.blame
        · exact ⟨inner, member, .inl clashes⟩
        · exact ⟨inner, member, .inr ⟨length, overflow⟩⟩
      · obtain ⟨inner, member, clashes⟩ := (stuck length).clashes
        exact ⟨inner, member, .inl clashes⟩
    · rw [Memo.Eval.perform, halted]

/-- Whatever one bench remembers, the other one shows, and is left as it is: every view of a packet
other than its bytes, which are held against the length each time, and every view of a header. -/
structure Recalls (bench final : Workbench) : Prop where
  /-- The views of packets. -/
  packets : ∀ target, bench.Holds target → ∀ view, view ≠ .bytes → ∀ value,
    bench.memory.bank.get? ⟨target.packet.object target.chain, view⟩ = some value →
      read target view final = .ok value final
  /-- The views of the headers of layers. -/
  headers : ∀ target, bench.Holds target → target.packet.header?.isSome = true → ∀ view value,
    bench.memory.bank.get? ⟨target.packet.headerObject target.chain, view⟩ = some value →
      readHeader target view final = .ok (some value) final
  /-- The views of copies. -/
  copies : ∀ serial < bench.copies.size, ∀ view value,
    bench.memory.bank.get? ⟨.copy serial, view⟩ = some value →
      readCopy serial view final = .ok value final

/-- No view of a header fails on a bench. -/
structure ShowsHeaders (bench : Workbench) : Prop where
  /-- The headers of layers. -/
  layers : ∀ target, bench.Holds target → ∀ view,
    ∃ value reached, readHeader target view bench = .ok value reached
  /-- Copies. -/
  copies : ∀ serial < bench.copies.size, ∀ view,
    ∃ value reached, readCopy serial view bench = .ok value reached

/-- A remembered view of a header is shown, and the bench is left as it is. -/
theorem access_header_of_filled {object : Object} {header : Header} {value : view.Value}
    (filled : bench.memory.bank.get? ⟨object, view⟩ = some value) :
    access (header.read object view) bench = .ok value bench :=
  access_of_returned (header.read_of_filled view filled)

/-- What is remembered on a sound bench is shown after every run. -/
theorem Sound.recalls (sound : bench.Sound) (later : List Operation) :
    bench.Recalls (bench.run later) := by
  have change := (run_leads sound later).1
  refine ⟨fun target _ view derived value full => ?_, fun target held headed view value full => ?_,
    fun serial below view value full => ?_⟩
  · have filled := change.memory.keeps _ value full
    exact access_of_returned (Packet.read_of_filled derived filled [])
  · have filled := change.memory.keeps _ value full
    obtain ⟨header, present⟩ := Option.isSome_iff_exists.mp headed
    unfold readHeader
    simp only [present, Functor.map, EStateM.map, access_header_of_filled filled]
  · have filled := change.memory.keeps _ value full
    have known := change.copies serial _ (Array.getElem?_eq_getElem below)
    simp only [readCopy, get_bind_apply, known, access_header_of_filled filled]

/-- No view of a header fails on a sound bench. -/
theorem Sound.showsHeaders (sound : bench.Sound) : bench.ShowsHeaders where
  layers _ held view := ⟨_, sound.readHeader_returns held view⟩
  copies _ below view :=
    ⟨_, sound.readCopy_returns (Array.getElem?_eq_getElem below) view⟩

/-- From a store of any packets and copies of headers of which nothing is remembered, and after any
run of operations, a view of a packet fails only because some layer inwards remembers bytes and a
length that differ in number or, if the length was asked for, because some length inwards does not
fit 64 bits. It takes nothing from what is remembered, leaves empty what it was working out, and
leaves bytes that it asked for failing for good, for the same fault and without any effect. Views of
headers do not fail, and whatever else was remembered is shown unchanged after anything that is done
later, failures included. -/
theorem failed_views_lose_nothing (chains : Array (Option Packet)) (copies : Array Header)
    (history : List Operation) :
    let bench := run ⟨.initial, chains, copies⟩ history
    (∀ target, bench.Holds target → ∀ view failure reached,
        read target view bench = .error failure reached →
          ∃ fault, failure = .faulted fault ∧ bench.Breaks reached target view fault) ∧
      bench.ShowsHeaders ∧ ∀ later, bench.Recalls (bench.run later) := by
  intro bench
  obtain ⟨-, sound⟩ := run_leads (sound_start chains copies) history
  exact ⟨fun target held view failure reached failed => sound.breaks held failed,
    sound.showsHeaders, sound.recalls⟩

/-- A datagram around a layer whose length is given as nine and that has two bytes. -/
def enclosed : Packet := .wrap (.udp ⟨⟨1⟩, ⟨2⟩, 17, 0⟩) mismatched

/-- After its length was shown, the hexadecimal form of the datagram fails for the layer in it. Its
length is still shown then, and its bytes go on to fail whatever is done. -/
theorem enclosed_fails_for_good :
    let bench := run ⟨.initial, #[some enclosed], #[]⟩ [.read 0 0 .length]
    let fault : Fault := .mismatch (.root "Long" (.custom "long")) 2 9
    let reached := bench.run [.read 0 0 .hex]
    let final := reached.run [.rebuild 0 0, .read 0 2 .bytes, .read 0 1 .text]
    read ⟨0, enclosed⟩ .hex bench = .error (.faulted fault) reached ∧
      reached.memory.bank.get? ⟨.packet 0 3, .hex⟩ = none ∧
      read ⟨0, enclosed⟩ .length reached = .ok (17 : Nat) reached ∧
      read ⟨0, enclosed⟩ .bytes final = .error (.faulted fault) final := by
  intro bench fault reached final
  obtain ⟨breaks, -, recalls⟩ :=
    failed_views_lose_nothing #[some enclosed] #[] [.read 0 0 .length]
  have held : bench.Holds ⟨0, enclosed⟩ := ⟨enclosed, rfl, Chain.mem_walk_self _⟩
  have failed : read ⟨0, enclosed⟩ .hex bench = .error (.faulted fault) reached := rfl
  have counted : bench.memory.bank.get? ⟨.packet 0 3, .length⟩ = some (17 : Nat) := rfl
  obtain ⟨found, same, broken⟩ := breaks ⟨0, enclosed⟩ held .hex _ _ failed
  obtain rfl : fault = found := Failure.faulted.inj same
  refine ⟨failed, broken.asked (by decide), ?_, broken.sticks (by decide) _⟩
  exact (recalls [.read 0 0 .hex]).packets ⟨0, enclosed⟩ held .length (by decide) (17 : Nat) counted

/-- A datagram around a layer whose length is given as the largest number of 64 bits. -/
def oversized : Packet :=
  .wrap (.udp ⟨⟨1⟩, ⟨2⟩, 7, 0⟩)
    (.bare
      (.custom ⟨.root "Plain" (.custom "plain"), none, some [1], .fixed 18446744073709551615⟩))

/-- The length of the datagram fails, but not because bytes and a length differ in number. -/
theorem oversized_length_overflows :
    let bench := run ⟨.initial, #[some oversized], #[]⟩ []
    bench.Holds ⟨0, oversized⟩ ∧
      ¬ ∀ failure reached, read ⟨0, oversized⟩ .length bench = .error failure reached →
        ∃ kind counted remembered, failure = .faulted (.mismatch kind counted remembered) := by
  refine ⟨⟨oversized, rfl, Chain.mem_walk_self _⟩, fun only => ?_⟩
  obtain ⟨kind, counted, remembered, same⟩ := only (.faulted .overflow) _ rfl
  cases same

end Encapsulation.Workbench
