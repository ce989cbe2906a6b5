import Encapsulation.Proofs.Builder.Calls
import Encapsulation.Workbench

/-!
# Calls on a bench

A builder is held on a bench, where refusals are reported. Whatever calls are made on a builder that
takes payloads, each gives the builder with all values given so far, and the bench stays as it is. A
builder that takes no payloads refuses every one that is attached, stays as it is, and reports the
refusal once.
-/
namespace Encapsulation

/-- Make a call on a builder. -/
def Call.make (builder : Builder) : Call → Use Builder
  | .set change => return builder.edit change
  | .enclose payload => Workbench.settle (builder.enclose payload)
  | .attach payload => Workbench.settle (builder.attach payload)

/-- A builder that somebody holds, and the bench on which refusals are reported. -/
structure Held where
  /-- The builder. -/
  builder : Builder
  /-- The bench. -/
  bench : Workbench

/-- A bench on which one more event was logged. -/
def Workbench.logged (bench : Workbench) (event : Event) : Workbench :=
  { bench with memory := { bench.memory with events := bench.memory.events.push event } }

/-- A refusal is logged and thrown. -/
theorem Workbench.settle_error {α : Type} (refusal : Refusal) (bench : Workbench) :
    (settle (.error refusal) : Use α) bench =
      .error (.refused refusal) (bench.logged (.payloadRejected refusal.kind refusal.payload)) :=
  rfl

namespace Held

/-- Make a call, and go on with the builder that it gives; a call that fails gives none. -/
def call (held : Held) (call : Call) : Held :=
  match call.make held.builder held.bench with
  | .ok next bench => ⟨next, bench⟩
  | .error _ bench => ⟨held.builder, bench⟩

/-- Make calls one after another, going on after those that fail. -/
def calls (held : Held) (calls : List Call) : Held := calls.foldl call held

/-- A payload that is attached is refused: the error names the kind of the builder, one event of
interest to fault finding tells both kinds, and nothing else changes, neither the builder nor what
is remembered nor what is on the bench. -/
structure Refuses (held : Held) (payload : Builder) : Prop where
  /-- The call fails with a refusal, which is logged once. -/
  outcome : (Call.attach payload).make held.builder held.bench =
    .error (.refused ⟨held.builder.kind, payload.kind⟩)
      (held.bench.logged (.payloadRejected held.builder.kind payload.kind))
  /-- The builder stays as it is. -/
  keeps : held.call (.attach payload) =
    ⟨held.builder, held.bench.logged (.payloadRejected held.builder.kind payload.kind)⟩
  /-- The error is an unsupported operation that names the kind of the builder. -/
  message : (Refusal.error ⟨held.builder.kind, payload.kind⟩).message =
    "Unsupported operation: " ++
      (held.builder.kind.name ++ " builder does not take a payload builder")
  /-- The event is of interest to fault finding, and names both kinds. -/
  event : (Event.payloadRejected held.builder.kind payload.kind).level = .debug ∧
    (Event.payloadRejected held.builder.kind payload.kind).parts =
      [("kind", .text held.builder.kind.name), ("payload", .text payload.kind.name)]

/-- What calls on a builder come to. -/
structure LastWrites (held : Held) (calls : List Call) : Prop where
  /-- In the end each field has the last value that was given to it, or else its initial one, and
  the payload is the last one that was given by either call, or else the initial one. -/
  builder : (held.calls calls).builder = held.builder.written calls
  /-- Calls in another order give the same builder, if those on one part are in the same order. -/
  order : ∀ others, (∀ part, SameOn calls others part) →
    (held.calls others).builder = (held.calls calls).builder
  /-- The builders that take payloads are those for Ethernet, LLC and SNAP and UDP. -/
  takers : held.builder.takesPayload = true ↔
    held.builder.sort ∈ [LayerSort.ethernet, .llcSnap, .udp]
  /-- On a builder that takes payloads every call returns the builder with all values given so
  far, and the bench stays as it is. -/
  accepts : held.builder.takesPayload = true →
    ∀ earlier call later, calls = earlier ++ call :: later →
      (held.calls earlier).bench = held.bench ∧
        call.make (held.calls earlier).builder held.bench =
          .ok (held.builder.written (earlier ++ [call])) held.bench
  /-- Payloads can be attached to such a builder in a chain of calls, and the last one stays. -/
  chains : held.builder.takesPayload = true → ∀ payloads,
    held.builder.attachAll payloads = .ok (held.builder.written (payloads.map .attach))
  /-- On a builder that takes no payloads every one that is attached is refused, whatever was called
  before, and the refusal names the kind that the builder has had from the first. -/
  refuses : held.builder.takesPayload = false →
    ∀ earlier payload later, calls = earlier ++ .attach payload :: later →
      (held.calls earlier).Refuses payload ∧
        (held.calls earlier).builder.kind = held.builder.kind

/-- A call gives the builder after it, whether it fails or not. -/
theorem builder_call (held : Held) (call : Call) :
    (held.call call).builder = held.builder.after call := by
  cases call with
  | set change => rfl
  | enclose payload =>
    by_cases placed : held.builder.layer?.isSome = true
    · simp only [Held.call, Call.make, Builder.enclose, Builder.after, if_pos placed]
      rfl
    · simp only [Held.call, Call.make, Builder.enclose, Builder.after, if_neg placed]
      rfl
  | attach payload =>
    by_cases takes : held.builder.takesPayload = true
    · simp only [Held.call, Call.make, Builder.attach, Builder.after, if_pos takes]
      rfl
    · simp only [Held.call, Call.make, Builder.attach, Builder.after, if_neg takes]
      rfl

/-- Calls give the builder with the values that they gave last. -/
theorem builder_calls (held : Held) (calls : List Call) :
    (held.calls calls).builder = held.builder.written calls := by
  rw [← held.builder.foldl_after]
  induction calls generalizing held with
  | nil => rfl
  | cons call rest ih =>
    rw [List.foldl_cons, ← held.builder_call]
    exact ih (held.call call)

/-- A builder that takes payloads fails no call. -/
theorem make_of_takesPayload {builder : Builder} (takes : builder.takesPayload = true) (call : Call)
    (bench : Workbench) : call.make builder bench = .ok (builder.after call) bench := by
  have placed : builder.layer?.isSome = true := by
    cases builder with
    | unknown data => cases takes
    | bare draft => rfl
    | wrap draft payload => rfl
  cases call with
  | set change => rfl
  | enclose payload =>
    simp only [Call.make, Builder.enclose, Builder.after, if_pos placed]
    rfl
  | attach payload =>
    simp only [Call.make, Builder.attach, Builder.after, if_pos takes]
    rfl

/-- On a builder that takes payloads calls leave the bench as it is. -/
theorem bench_calls {held : Held} (takes : held.builder.takesPayload = true) (calls : List Call) :
    (held.calls calls).bench = held.bench := by
  induction calls generalizing held with
  | nil => rfl
  | cons call rest ih =>
    have made : held.call call = ⟨held.builder.after call, held.bench⟩ := by
      rw [Held.call, make_of_takesPayload takes]
    have onward : ((held.call call).calls rest).bench = (held.call call).bench := by
      apply ih
      rw [made]
      exact (held.builder.after_akin call).2.trans takes
    rw [made] at onward
    rw [Held.calls, List.foldl_cons, made]
    exact onward

/-- Payloads that are attached in a chain of calls are taken one after another. -/
theorem attachAll_eq {builder : Builder} (takes : builder.takesPayload = true)
    (payloads : List Builder) :
    builder.attachAll payloads = .ok (builder.written (payloads.map .attach)) := by
  induction payloads generalizing builder with
  | nil => exact congrArg Except.ok builder.written_nil.symm
  | cons payload rest ih =>
    have placed : builder.attach payload = .ok (builder.after (.attach payload)) := by
      rw [Builder.attach, Builder.after, if_pos takes, if_pos takes]
    have onward := ih ((builder.after_akin (.attach payload)).2.trans takes)
    rw [Builder.attachAll, placed, List.map_cons, builder.written_cons]
    exact onward

/-- A builder that takes no payloads refuses those that are attached. -/
theorem refuses_of_takesPayload {held : Held} (takes : held.builder.takesPayload = false)
    (payload : Builder) : held.Refuses payload := by
  have outcome : (Call.attach payload).make held.builder held.bench =
      .error (.refused ⟨held.builder.kind, payload.kind⟩)
        (held.bench.logged (.payloadRejected held.builder.kind payload.kind)) := by
    have refused : held.builder.attach payload = .error (held.builder.refusal payload) := by
      rw [Builder.attach, if_neg (by simp [takes])]
    rw [Call.make, refused]
    exact Workbench.settle_error (held.builder.refusal payload) held.bench
  refine ⟨outcome, ?_, rfl, rfl, rfl⟩
  rw [Held.call, outcome]

/-- Calls on a builder, setters and payloads by either way in any order, leave in each part of it
the last value that was given to it, so the order of calls on different parts does not matter. A
builder for Ethernet, LLC and SNAP or UDP takes every payload and can be called in a chain; raw data
and the builders that callers define refuse every payload that is attached, and a refusal leaves the
builder as it was, names its kind, and is reported by one event. -/
theorem calls_are_last_writes (held : Held) (calls : List Call) : held.LastWrites calls where
  builder := held.builder_calls calls
  order others same := by
    rw [held.builder_calls, held.builder_calls]
    exact (held.builder.written_congr same).symm
  takers := held.builder.takesPayload_iff_sort
  accepts takes := by
    rintro earlier call later -
    have before := held.builder_calls earlier
    have still : (held.calls earlier).builder.takesPayload = true := by
      rw [before]
      exact (held.builder.written_akin earlier).2.trans takes
    have after : (held.calls earlier).builder.after call =
        held.builder.written (earlier ++ [call]) := by
      rw [← builder_call, ← held.builder_calls]
      simp only [Held.calls, List.foldl_append, List.foldl_cons, List.foldl_nil]
    refine ⟨bench_calls takes earlier, ?_⟩
    rw [make_of_takesPayload still, after]
  chains takes := attachAll_eq takes
  refuses takes := by
    rintro earlier payload later -
    have akin := held.builder.written_akin earlier
    rw [← held.builder_calls] at akin
    exact ⟨refuses_of_takesPayload (akin.2.trans takes) payload, akin.1⟩

end Held

end Encapsulation
