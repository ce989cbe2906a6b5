import Encapsulation.Proofs.Access.Moment

/-!
# The log of a memory

From moment to moment, the log tells which bytes were built: the bytes of an object are reported
exactly when they come to be remembered, so once at most, with the kind of the object and their
number, and after those of the parts they are put together from. Only a copy of a header may
remember bytes that were never built for it, namely those it started with.
-/
namespace Encapsulation

open Memo (Bank)
open Relation (ReflTransGen)

/-- An event reports that the bytes of an object were built. -/
def Event.builds (object : Object) : Event → Bool
  | bytesBuilt built _ _ => built == object
  | _ => false

/-- How often it was reported that the bytes of an object were built. -/
def Memory.builds (memory : Memory) (object : Object) : Nat :=
  memory.events.countP (Event.builds object)

/-- The bytes of an object are remembered. -/
def Memory.hasBytes (memory : Memory) (object : Object) : Bool :=
  memory.bank.isFilled ⟨object, .bytes⟩

/-- At some place of the log it is reported that the bytes of an object were built, of some kind and
so many. -/
def Memory.Reports (memory : Memory) (index : Nat) (object : Object) (kind : Kind) (count : Nat) :
    Prop :=
  memory.events[index]? = some (.bytesBuilt object kind count)

/-- Before some place of the log it is reported that the bytes of an object were built. -/
def Memory.ReportsBefore (memory : Memory) (index : Nat) (object : Object) : Prop :=
  ∃ earlier < index, ∃ kind count, memory.Reports earlier object kind count

/-- The bytes of an object are not remembered if and only if their cell is empty. -/
theorem Memory.hasBytes_eq_false_iff {memory : Memory} {object : Object} :
    memory.hasBytes object = false ↔ memory.bank.get? ⟨object, .bytes⟩ = none := by
  rw [Memory.hasBytes, Bank.isFilled, Option.isSome_eq_false_iff, Option.isNone_iff_eq_none]

/-- After the bytes of an object were built, they are remembered. -/
@[simp]
theorem Memory.hasBytes_withBytes_self (memory : Memory) (object : Object) (kind : Kind)
    (bytes : Bytes) : (memory.withBytes object kind bytes).hasBytes object = true :=
  Bank.isFilled_fill memory.bank ⟨object, .bytes⟩ bytes

/-- Other objects remember their bytes as before after those of an object were built. -/
theorem Memory.hasBytes_withBytes_of_ne (memory : Memory) {built object : Object} (kind : Kind)
    (bytes : Bytes) (other : built ≠ object) :
    (memory.withBytes built kind bytes).hasBytes object = memory.hasBytes object := by
  have distinct : Cell.mk built .bytes ≠ ⟨object, .bytes⟩ :=
    fun same => other (congrArg Cell.object same)
  exact congrArg Option.isSome (Memory.get?_withBytes_of_ne distinct)

namespace Moment

variable {book : Book} {fresh : Nat} {before after : Memory}

/-- Once an event is logged, it stays in its place. -/
theorem keeps_log (moment : Moment book fresh before after) {index : Nat} {event : Event}
    (logged : before.events[index]? = some event) : after.events[index]? = some event := by
  have pushed : ∀ last : Event, (before.events.push last)[index]? = some event := by
    intro last
    have below : index ≠ before.events.size :=
      Nat.ne_of_lt (Array.getElem?_eq_some_iff.mp logged).1
    rw [Array.getElem?_push, if_neg below]
    exact logged
  cases moment with
  | fill cell value derived vacant => exact logged
  | buildHeader object header booked vacant => exact pushed _
  | buildPacket chain packet bytes booked vacant ready => exact pushed _
  | report event other => exact pushed _
  | copy source serial bank new vacant starts others => exact logged

/-- At a moment either no bytes are built, and then none come to be remembered except those that a
new copy starts with, or the bytes of one object are. -/
theorem quiet_or_built (moment : Moment book fresh before after) :
    ((∀ object, after.builds object = before.builds object) ∧
      (∀ index object kind count, after.Reports index object kind count →
        before.Reports index object kind count) ∧
      ∀ object, (∀ serial, object = .copy serial → serial < fresh) →
        after.hasBytes object = before.hasBytes object) ∨
    ∃ object item, ∃ bytes : Bytes, book object = some item ∧ before.hasBytes object = false ∧
      after = before.withBytes object item.kind bytes ∧
      ∀ chain packet, object = packet.object chain → item = .packet packet → packet.Composes →
        packet.PartsReady chain before.bank := by
  cases moment with
  | fill cell value derived vacant =>
    refine .inl ⟨fun _ => rfl, fun _ _ _ _ reported => reported, fun object _ => ?_⟩
    have distinct : cell ≠ ⟨object, .bytes⟩ := fun same => derived (same ▸ rfl)
    rw [Memory.hasBytes, Bank.isFilled, before.bank.get?_fill_of_ne value distinct]
    rfl
  | buildHeader object header booked vacant =>
    refine .inr ⟨object, .header header, header.bytes, booked,
      Memory.hasBytes_eq_false_iff.mpr vacant, rfl, ?_⟩
    intro chain packet _ other
    cases other
  | buildPacket chain packet bytes booked vacant ready =>
    refine .inr ⟨packet.object chain, .packet packet, bytes, booked,
      Memory.hasBytes_eq_false_iff.mpr vacant, rfl, ?_⟩
    intro otherChain other same alike composes
    obtain rfl : packet = other := Item.packet.inj alike
    obtain rfl : chain = otherChain := (Object.packet.inj same).1
    exact ready composes
  | report event other =>
    refine .inl ⟨fun object => ?_, fun index object kind count reported => ?_, fun _ _ => rfl⟩
    · have silent : event.builds object = false := by
        cases event with
        | bytesBuilt built kind count => exact absurd rfl (other built kind count)
        | _ => rfl
      simp [Memory.builds, silent]
    · rw [Memory.Reports, Array.getElem?_push] at reported
      by_cases last : index = before.events.size
      · rw [if_pos last] at reported
        exact absurd (Option.some.inj reported) (other object kind count)
      · rw [if_neg last] at reported
        exact reported
  | copy source serial bank new vacant starts others =>
    refine .inl ⟨fun _ => rfl, fun _ _ _ _ reported => reported, fun object settled => ?_⟩
    have other : object ≠ .copy serial :=
      fun same => Nat.not_lt.mpr new (settled serial same)
    exact congrArg Option.isSome (others ⟨object, .bytes⟩ other)

/-- Where the bytes of an object that remembers none are built, they are reported as often as they
come to be remembered, and so are those of all other objects. -/
theorem balance_of_built {memory : Memory} {built : Object} (kind : Kind) (bytes : Bytes)
    (vacant : memory.hasBytes built = false) (object : Object) :
    (memory.withBytes built kind bytes).builds object + (memory.hasBytes object).toNat =
      memory.builds object + ((memory.withBytes built kind bytes).hasBytes object).toNat := by
  by_cases own : built = object
  · subst own
    have counted : (memory.withBytes built kind bytes).builds built = memory.builds built + 1 := by
      simp [Memory.withBytes, Memory.builds, Event.builds]
    rw [counted, vacant, Memory.hasBytes_withBytes_self]
    rfl
  · have counted : (memory.withBytes built kind bytes).builds object = memory.builds object := by
      simp [Memory.withBytes, Memory.builds, Event.builds, own]
    rw [counted, memory.hasBytes_withBytes_of_ne kind bytes own]

/-- The bytes of an object are reported to be built as often as they come to be remembered, except
for copies that start later. -/
theorem builds_balance (moment : Moment book fresh before after) {object : Object}
    (settled : ∀ serial, object = .copy serial → serial < fresh) :
    after.builds object + (before.hasBytes object).toNat =
      before.builds object + (after.hasBytes object).toNat := by
  rcases moment.quiet_or_built with ⟨same, -, unchanged⟩ | ⟨built, item, bytes, -, vacant, rfl, -⟩
  · rw [same object, unchanged object settled]
  · exact balance_of_built item.kind bytes vacant object

/-- The same from moment to moment. -/
theorem builds_balance_many (moments : ReflTransGen (Moment book fresh) before after)
    {object : Object} (settled : ∀ serial, object = .copy serial → serial < fresh) :
    after.builds object + (before.hasBytes object).toNat =
      before.builds object + (after.hasBytes object).toNat := by
  induction moments with
  | refl => rfl
  | tail _ moment ih =>
    have last := moment.builds_balance settled
    omega

end Moment

/-- A log tells what was built by a book: every report of bytes is about bytes that are remembered,
so many of them, and about something in the book, with its kind; bytes are reported once at most,
and all bytes that are remembered were reported, except those of copies; and the bytes of a packet
that is put together from its parts were reported after those of its parts. -/
structure Memory.Logged (book : Book) (memory : Memory) : Prop where
  /-- The bytes of an object are reported once at most, and only if they are remembered. -/
  once : ∀ object, memory.builds object ≤ (memory.hasBytes object).toNat
  /-- The bytes that were reported are remembered, and so many. -/
  counted : ∀ index object kind count, memory.Reports index object kind count →
    ∃ bytes : Bytes, memory.bank.get? ⟨object, .bytes⟩ = some bytes ∧ bytes.length = count
  /-- The bytes that were reported are those of something in the book, of its kind. -/
  booked : ∀ index object kind count, memory.Reports index object kind count →
    ∃ item, book object = some item ∧ item.kind = kind
  /-- The bytes that are remembered were reported. -/
  told : ∀ object, (∀ serial, object ≠ .copy serial) → memory.hasBytes object = true →
    ∃ index kind count, memory.Reports index object kind count
  /-- The bytes of the parts were reported before. -/
  ordered : ∀ index chain kind count (packet : Packet),
    memory.Reports index (packet.object chain) kind count →
    book (packet.object chain) = some (.packet packet) → packet.Composes →
      (packet.header?.isSome = true → memory.ReportsBefore index (packet.headerObject chain)) ∧
      ∀ payload : Packet, packet.payload? = some payload →
        memory.ReportsBefore index (payload.object chain)

namespace Memory.Logged

variable {book : Book} {fresh : Nat} {before after : Memory}

/-- The log of a memory that remembers nothing tells what was built. -/
theorem initial (book : Book) : Memory.Logged book .initial := by
  have silent : ∀ index object kind count,
      ¬ Memory.Reports (Memo.State.initial : Memory) index object kind count := by
    intro index object kind count reported
    simp [Memory.Reports, Memo.State.initial] at reported
  have vacant : ∀ object, ¬ Memory.hasBytes (Memo.State.initial : Memory) object = true := by
    intro object full
    simp [Memory.hasBytes, Bank.isFilled, Memo.State.initial] at full
  exact ⟨fun object => Nat.zero_le _,
    fun index object kind count reported => absurd reported (silent index object kind count),
    fun index object kind count reported => absurd reported (silent index object kind count),
    fun object _ full => absurd full (vacant object),
    fun index chain kind count packet reported => absurd reported (silent index _ kind count)⟩

/-- A report in a log after bytes were built was there before, or is the last one. -/
theorem reports_withBytes {built object : Object} {own kind : Kind} {bytes : Bytes}
    {index count : Nat} (reported : (before.withBytes built own bytes).Reports index object kind count) :
    before.Reports index object kind count ∨
      index = before.events.size ∧ built = object ∧ own = kind ∧ bytes.length = count := by
  rw [Memory.Reports, Memory.withBytes, Array.getElem?_push] at reported
  by_cases last : index = before.events.size
  · rw [if_pos last] at reported
    exact .inr ⟨last, Event.bytesBuilt.inj (Option.some.inj reported)⟩
  · rw [if_neg last] at reported
    exact .inl reported

/-- What was reported before some place of a log still is a moment later. -/
theorem reportsBefore_mono (moment : Moment book fresh before after) {index : Nat}
    {object : Object} (reported : before.ReportsBefore index object) :
    after.ReportsBefore index object := by
  obtain ⟨earlier, less, kind, count, logged⟩ := reported
  exact ⟨earlier, less, kind, count, moment.keeps_log logged⟩

/-- A log goes on to tell what was built while no bytes are built. -/
theorem quiet (logged : before.Logged book) (moment : Moment book fresh before after)
    (same : ∀ object, after.builds object = before.builds object)
    (fewer : ∀ index object kind count, after.Reports index object kind count →
      before.Reports index object kind count)
    (unchanged : ∀ object, (∀ serial, object = .copy serial → serial < fresh) →
      after.hasBytes object = before.hasBytes object) : after.Logged book where
  once object := by
    have more : (before.hasBytes object).toNat ≤ (after.hasBytes object).toNat := by
      cases had : before.hasBytes object with
      | false => exact Nat.zero_le _
      | true => rw [show after.hasBytes object = true from Moment.isFilled_many (.single moment) had]
    rw [same object]
    exact Nat.le_trans (logged.once object) more
  counted index object kind count reported := by
    obtain ⟨bytes, full, size⟩ := logged.counted index object kind count (fewer _ _ _ _ reported)
    exact ⟨bytes, moment.keeps full, size⟩
  booked index object kind count reported :=
    logged.booked index object kind count (fewer _ _ _ _ reported)
  told object original full := by
    have had : before.hasBytes object = true :=
      (unchanged object fun serial copied => absurd copied (original serial)).symm.trans full
    obtain ⟨index, kind, count, reported⟩ := logged.told object original had
    exact ⟨index, kind, count, moment.keeps_log reported⟩
  ordered index chain kind count packet reported listed composes := by
    obtain ⟨header, payload⟩ :=
      logged.ordered index chain kind count packet (fewer _ _ _ _ reported) listed composes
    exact ⟨fun present => reportsBefore_mono moment (header present),
      fun inside present => reportsBefore_mono moment (payload inside present)⟩

/-- A log goes on to tell what was built when the bytes of an object in the book are built, out of
parts whose bytes are remembered. -/
theorem built (logged : before.Logged book) {object : Object} {item : Item} {bytes : Bytes}
    (moment : Moment book fresh before (before.withBytes object item.kind bytes))
    (known : book object = some item) (vacant : before.hasBytes object = false)
    (ready : ∀ chain packet, object = packet.object chain → item = .packet packet →
      packet.Composes → packet.PartsReady chain before.bank) :
    (before.withBytes object item.kind bytes).Logged book where
  once other := by
    have balance := Moment.balance_of_built item.kind bytes vacant other
    have earlier := logged.once other
    omega
  counted index other kind count reported := by
    rcases reports_withBytes reported with earlier | ⟨-, rfl, -, rfl⟩
    · obtain ⟨held, full, size⟩ := logged.counted index other kind count earlier
      exact ⟨held, moment.keeps full, size⟩
    · have empty : before.bank.get? ⟨object, .bytes⟩ = none :=
        Memory.hasBytes_eq_false_iff.mp vacant
      exact ⟨bytes, Memory.get?_withBytes_self empty, rfl⟩
  booked index other kind count reported := by
    rcases reports_withBytes reported with earlier | ⟨-, rfl, rfl, -⟩
    · exact logged.booked index other kind count earlier
    · exact ⟨item, known, rfl⟩
  told other original full := by
    by_cases own : object = other
    · subst own
      exact ⟨before.events.size, item.kind, bytes.length, Array.getElem?_push_size⟩
    · rw [before.hasBytes_withBytes_of_ne item.kind bytes own] at full
      obtain ⟨index, kind, count, reported⟩ := logged.told other original full
      exact ⟨index, kind, count, moment.keeps_log reported⟩
  ordered index chain kind count packet reported listed composes := by
    rcases reports_withBytes reported with earlier | ⟨rfl, rfl, -, -⟩
    · obtain ⟨header, payload⟩ :=
        logged.ordered index chain kind count packet earlier listed composes
      exact ⟨fun present => reportsBefore_mono moment (header present),
        fun inside present => reportsBefore_mono moment (payload inside present)⟩
    · have alike : item = .packet packet := Option.some.inj (known.symm.trans listed)
      have parts := ready chain packet rfl alike composes
      -- Whatever is remembered of a part was reported, and all reports so far come before this one.
      have told : ∀ part : Object, (∀ serial, part ≠ .copy serial) →
          before.hasBytes part = true →
          (before.withBytes (packet.object chain) item.kind bytes).ReportsBefore
            before.events.size part := by
        intro part original full
        obtain ⟨index, kind, count, reported⟩ := logged.told part original full
        exact ⟨index, (Array.getElem?_eq_some_iff.mp reported).1, kind, count,
          moment.keeps_log reported⟩
      refine ⟨fun present => told _ (fun _ same => by cases same) (parts.header present),
        fun payload present => ?_⟩
      obtain ⟨held, full, -⟩ := parts.payload payload present
      exact told _ (fun _ same => by cases same) (Option.isSome_iff_exists.mpr ⟨held, full⟩)

/-- A log goes on to tell what was built. -/
theorem moment (logged : before.Logged book) (moment : Moment book fresh before after) :
    after.Logged book := by
  rcases moment.quiet_or_built with
    ⟨same, fewer, unchanged⟩ | ⟨object, item, bytes, known, vacant, rfl, ready⟩
  · exact logged.quiet moment same fewer unchanged
  · exact logged.built moment known vacant ready

/-- A log goes on to tell what was built from moment to moment. -/
theorem many (logged : before.Logged book)
    (moments : ReflTransGen (Moment book fresh) before after) : after.Logged book := by
  induction moments with
  | refl => exact logged
  | tail _ moment ih => exact ih.moment moment

end Memory.Logged

end Encapsulation
