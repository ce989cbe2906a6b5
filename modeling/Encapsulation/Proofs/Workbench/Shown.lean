import Encapsulation.Proofs.Workbench.Regular

/-!
# What a bench shows for good

A packet shows a value on a bench if a view of it returns that value whatever is done on the bench
before the view is asked for, and in the same sense one packet is judged to equal another one. On a
sound bench these are what the fields say, for every view that can be had from every bank and for
every comparison with a regular packet.
-/
namespace Encapsulation

/-- All views of a regular packet but that of its length can be had from every bank; that of the
length needs sums that fit. -/
theorem Packet.Regular.ready_of_ne_length {packet : Packet} (regular : packet.Regular)
    (chain : Nat) (bank : Memo.Bank Cell Cell.Value) {view : View} (other : view ≠ .length) :
    packet.Ready chain bank view := by
  have bytes : packet.BytesReady chain bank := regular.bytesReady bank
  cases view with
  | length => exact absurd rfl other
  | bytes => exact bytes
  | hex => exact .inr bytes
  | text => trivial
  | hash => exact .inr bytes

namespace Workbench

variable {bench : Workbench} {left right target : Located} {view : View}

/-- A view of a packet returns a value, whatever is done before it is asked for. -/
def Shows (bench : Workbench) (target : Located) (view : View) (value : view.Value) : Prop :=
  ∀ later : List Operation, ∃ reached, read target view (bench.run later) = .ok value reached

/-- A view of the header of a packet returns a value, or that there is no header, whatever is done
before it is asked for. -/
def HeaderShows (bench : Workbench) (target : Located) (view : View)
    (value : Option view.Value) : Prop :=
  ∀ later : List Operation, ∃ reached, readHeader target view (bench.run later) = .ok value reached

/-- Two packets show the same value under a view. -/
def ShowsSame (bench : Workbench) (view : View) (left right : Located) : Prop :=
  ∃ value, bench.Shows left view value ∧ bench.Shows right view value

/-- Two packets never show the same value under a view, whatever is done before each of them is
asked. -/
def TellsApart (bench : Workbench) (view : View) (left right : Located) : Prop :=
  ∀ (later otherLater : List Operation) (value other : view.Value) (reached elsewhere : Workbench),
    read left view (bench.run later) = .ok value reached →
      read right view (bench.run otherLater) = .ok other elsewhere → value ≠ other

/-- A comparison of one packet with another one returns a verdict, whatever is done before. -/
def Judges (bench : Workbench) (left right : Located) (verdict : Bool) : Prop :=
  ∀ later : List Operation, ∃ reached, equals left right (bench.run later) = .ok verdict reached

/-- A packet shows at most one value under a view. -/
theorem Shows.eq {value other : view.Value} (shown : bench.Shows target view value)
    (again : bench.Shows target view other) : value = other := by
  obtain ⟨reached, first⟩ := shown []
  obtain ⟨elsewhere, second⟩ := again []
  exact (EStateM.Result.ok.inj (first.symm.trans second)).1

/-- Showing the same is symmetric. -/
theorem ShowsSame.symm (same : bench.ShowsSame view left right) :
    bench.ShowsSame view right left := by
  obtain ⟨value, shown, again⟩ := same
  exact ⟨value, again, shown⟩

/-- Showing the same is transitive. -/
theorem ShowsSame.trans {third : Located} (same : bench.ShowsSame view left right)
    (onward : bench.ShowsSame view right third) : bench.ShowsSame view left third := by
  obtain ⟨value, shown, again⟩ := same
  obtain ⟨other, first, second⟩ := onward
  have equal : value = other := again.eq first
  exact ⟨value, shown, equal ▸ second⟩

/-- A comparison has at most one verdict. -/
theorem Judges.eq {verdict other : Bool} (judged : bench.Judges left right verdict)
    (again : bench.Judges left right other) : verdict = other := by
  obtain ⟨reached, first⟩ := judged []
  obtain ⟨elsewhere, second⟩ := again []
  exact (EStateM.Result.ok.inj (first.symm.trans second)).1

/-- A packet on a sound bench shows the meaning of every view that can be had from every bank. -/
theorem Sound.shows (sound : bench.Sound) (held : bench.Holds target)
    (ready : ∀ bank, target.packet.Ready target.chain bank view) :
    bench.Shows target view (target.packet.meaning view) := by
  intro later
  obtain ⟨change, kept⟩ := run_leads sound later
  obtain ⟨reached, ⟨-, shown⟩ | ⟨unready, -⟩⟩ := kept.read_outcome (change.holds held) view
  · exact ⟨reached, shown⟩
  · exact absurd (ready _) unready

/-- A header on a sound bench shows the meaning of every view. -/
theorem Sound.headerShows (sound : bench.Sound) (held : bench.Holds target) (view : View) :
    bench.HeaderShows target view (target.packet.header?.map (·.meaning view)) := by
  intro later
  obtain ⟨change, kept⟩ := run_leads sound later
  exact kept.readHeader_returns (change.holds held) view

/-- Two packets on a sound bench show the same if and only if they mean the same, for a view that
can be had from every bank. -/
theorem Sound.showsSame_iff (sound : bench.Sound) (held : bench.Holds left)
    (otherHeld : bench.Holds right) (ready : ∀ bank, left.packet.Ready left.chain bank view)
    (otherReady : ∀ bank, right.packet.Ready right.chain bank view) :
    bench.ShowsSame view left right ↔ left.packet.meaning view = right.packet.meaning view := by
  have own := sound.shows held ready
  have others := sound.shows otherHeld otherReady
  constructor
  · rintro ⟨value, shown, again⟩
    rw [own.eq shown, others.eq again]
  · intro same
    exact ⟨_, own, same ▸ others⟩

/-- What a view of a packet on a sound bench returns is what the fields say, whatever was done
before. -/
theorem Sound.eq_meaning (sound : bench.Sound) (held : bench.Holds target)
    (later : List Operation) {value : view.Value} {reached : Workbench}
    (returned : read target view (bench.run later) = .ok value reached) :
    value = target.packet.meaning view := by
  obtain ⟨change, kept⟩ := run_leads sound later
  exact kept.truthful.packets target (change.holds held) view value reached returned

/-- Two packets on a sound bench that mean different values under a view are told apart by it. -/
theorem Sound.tellsApart (sound : bench.Sound) (held : bench.Holds left)
    (otherHeld : bench.Holds right)
    (different : left.packet.meaning view ≠ right.packet.meaning view) :
    bench.TellsApart view left right := by
  intro later otherLater value other reached elsewhere returned otherReturned
  rw [sound.eq_meaning held later returned, sound.eq_meaning otherHeld otherLater otherReturned]
  exact different

/-- A comparison with a regular packet on a sound bench returns the verdict by the fields. -/
theorem Sound.judges_iff (sound : bench.Sound) (held : bench.Holds left)
    (otherHeld : bench.Holds right) (regular : right.packet.Regular) (verdict : Bool) :
    bench.Judges left right verdict ↔ left.packet.plainEquals right.packet = verdict := by
  have judged : bench.Judges left right (left.packet.plainEquals right.packet) := by
    intro later
    obtain ⟨change, kept⟩ := run_leads sound later
    obtain ⟨reached, ⟨-, returned⟩ | ⟨unready, -⟩⟩ :=
      kept.equals_outcome (change.holds held) (change.holds otherHeld)
    · exact ⟨reached, returned⟩
    · exact absurd (regular.equalsReady left.packet _) unready
  constructor
  · intro stated
    exact judged.eq stated
  · rintro rfl
    exact judged

end Workbench

end Encapsulation
