import Encapsulation.Builder

/-!
# Calls on builders

Somebody who holds a builder sets its fields and gives it payloads, in any order. Each part of the
builder has the last value that was given to it, or else the value that it had at first, so only
the order of the calls on one part matters. Calls on parts that a builder does not have change
nothing, and neither do payloads that it refuses.
-/
namespace Encapsulation

/-- A call on a builder. -/
inductive Call where
  /-- Set a field. -/
  | set (change : Edit)
  /-- Give a payload to a builder that has a place for it. -/
  | enclose (payload : Builder)
  /-- Give a payload to a builder that may refuse it. -/
  | attach (payload : Builder)

/-- The parts of builders that calls give values to. -/
inductive Part where
  /-- The station, access point or port that the packet is for. -/
  | destination
  /-- The station, access point or port that sends the packet. -/
  | source
  /-- What the payload of a frame is. -/
  | etherType
  /-- The pad of a frame. -/
  | pad
  /-- Whether a short frame is filled up. -/
  | padAtBuild
  /-- The control field. -/
  | control
  /-- The organisation that gives out the protocol identifier. -/
  | oui
  /-- The protocol of the payload. -/
  | protocol
  /-- The length field. -/
  | length
  /-- The checksum field. -/
  | checksum
  /-- Whether the length field is worked out. -/
  | correctLength
  /-- Raw data. -/
  | data
  /-- The payload, whichever call gives it. -/
  | payload
deriving DecidableEq

/-- The part that an edit gives a value to. -/
def Edit.part : Edit → Part
  | .ethernet (.destination _) => .destination
  | .ethernet (.source _) => .source
  | .ethernet (.etherType _) => .etherType
  | .ethernet (.pad _) => .pad
  | .ethernet (.padAtBuild _) => .padAtBuild
  | .llcSnap (.destination _) => .destination
  | .llcSnap (.source _) => .source
  | .llcSnap (.control _) => .control
  | .llcSnap (.oui _) => .oui
  | .llcSnap (.protocol _) => .protocol
  | .udp (.source _) => .source
  | .udp (.destination _) => .destination
  | .udp (.length _) => .length
  | .udp (.checksum _) => .checksum
  | .udp (.correctLength _) => .correctLength
  | .data _ => .data

/-- The part that a call gives a value to. -/
def Call.part : Call → Part
  | .set change => change.part
  | .enclose _ => .payload
  | .attach _ => .payload

section LastGiven

variable {β : Type} {given : Call → Option β}

/-- The last value that calls give, or else the initial one. -/
def lastGiven (given : Call → Option β) (initial : β) (calls : List Call) : β :=
  (calls.filterMap given).getLast?.getD initial

/-- The first call only decides where no later one gives a value. -/
theorem lastGiven_cons (given : Call → Option β) (initial : β) (call : Call) (rest : List Call) :
    lastGiven given initial (call :: rest) =
      lastGiven given ((given call).getD initial) rest := by
  unfold lastGiven
  cases value : given call with
  | none => simp [value]
  | some value => simp [value, List.getLast?_cons]

/-- Calls on other parts do not matter. -/
theorem lastGiven_congr {calls others : List Call} (part : Part) (initial : β)
    (only : ∀ call value, given call = some value → call.part = part)
    (same : calls.filter (·.part = part) = others.filter (·.part = part)) :
    lastGiven given initial calls = lastGiven given initial others := by
  have narrow : (fun call => if decide (call.part = part) = true then given call else none) =
      given := by
    funext call
    cases value : given call with
    | none => simp
    | some value => simp [only call _ value]
  have values : calls.filterMap given = others.filterMap given := by
    rw [← narrow, ← List.filterMap_filter, ← List.filterMap_filter, same]
  rw [lastGiven, lastGiven, values]

end LastGiven

/-- An Ethernet draft after some calls, each field with the last value that was given to it. -/
def EthernetDraft.written (draft : EthernetDraft) (calls : List Call) : EthernetDraft where
  destination := lastGiven
    (fun | .set (.ethernet (.destination address)) => some address | _ => none)
    draft.destination calls
  source := lastGiven
    (fun | .set (.ethernet (.source address)) => some address | _ => none) draft.source calls
  etherType := lastGiven
    (fun | .set (.ethernet (.etherType etherType)) => some etherType | _ => none)
    draft.etherType calls
  pad := lastGiven (fun | .set (.ethernet (.pad pad)) => some pad | _ => none) draft.pad calls
  padAtBuild := lastGiven
    (fun | .set (.ethernet (.padAtBuild enabled)) => some enabled | _ => none)
    draft.padAtBuild calls

/-- An LLC and SNAP header after some calls, each field with the last value that was given to it. -/
def LlcSnapHeader.written (header : LlcSnapHeader) (calls : List Call) : LlcSnapHeader where
  destination := lastGiven
    (fun | .set (.llcSnap (.destination point)) => some point | _ => none)
    header.destination calls
  source := lastGiven
    (fun | .set (.llcSnap (.source point)) => some point | _ => none) header.source calls
  control := lastGiven
    (fun | .set (.llcSnap (.control control)) => some control | _ => none) header.control calls
  oui := lastGiven (fun | .set (.llcSnap (.oui oui)) => some oui | _ => none) header.oui calls
  protocol := lastGiven
    (fun | .set (.llcSnap (.protocol protocol)) => some protocol | _ => none)
    header.protocol calls

/-- A UDP draft after some calls, each field with the last value that was given to it. -/
def UdpDraft.written (draft : UdpDraft) (calls : List Call) : UdpDraft where
  source := lastGiven (fun | .set (.udp (.source port)) => some port | _ => none)
    draft.source calls
  destination := lastGiven (fun | .set (.udp (.destination port)) => some port | _ => none)
    draft.destination calls
  length := lastGiven (fun | .set (.udp (.length length)) => some length | _ => none)
    draft.length calls
  checksum := lastGiven (fun | .set (.udp (.checksum checksum)) => some checksum | _ => none)
    draft.checksum calls
  correctLength := lastGiven
    (fun | .set (.udp (.correctLength enabled)) => some enabled | _ => none)
    draft.correctLength calls

/-- Calls agree on a part: they give it the same values in the same order. -/
def SameOn (calls others : List Call) (part : Part) : Prop :=
  calls.filter (·.part = part) = others.filter (·.part = part)

/-- Only the calls on a field matter for it. -/
theorem EthernetDraft.written_congr (draft : EthernetDraft) {calls others : List Call}
    (same : ∀ part, part ≠ .payload → SameOn calls others part) :
    draft.written calls = draft.written others := by
  unfold written
  congr 1
  · exact lastGiven_congr .destination _ (by grind [Call.part, Edit.part]) (same _ (by decide))
  · exact lastGiven_congr .source _ (by grind [Call.part, Edit.part]) (same _ (by decide))
  · exact lastGiven_congr .etherType _ (by grind [Call.part, Edit.part]) (same _ (by decide))
  · exact lastGiven_congr .pad _ (by grind [Call.part, Edit.part]) (same _ (by decide))
  · exact lastGiven_congr .padAtBuild _ (by grind [Call.part, Edit.part]) (same _ (by decide))

/-- Only the calls on a field matter for it. -/
theorem LlcSnapHeader.written_congr (header : LlcSnapHeader) {calls others : List Call}
    (same : ∀ part, part ≠ .payload → SameOn calls others part) :
    header.written calls = header.written others := by
  unfold written
  congr 1
  · exact lastGiven_congr .destination _ (by grind [Call.part, Edit.part]) (same _ (by decide))
  · exact lastGiven_congr .source _ (by grind [Call.part, Edit.part]) (same _ (by decide))
  · exact lastGiven_congr .control _ (by grind [Call.part, Edit.part]) (same _ (by decide))
  · exact lastGiven_congr .oui _ (by grind [Call.part, Edit.part]) (same _ (by decide))
  · exact lastGiven_congr .protocol _ (by grind [Call.part, Edit.part]) (same _ (by decide))

/-- Only the calls on a field matter for it. -/
theorem UdpDraft.written_congr (draft : UdpDraft) {calls others : List Call}
    (same : ∀ part, part ≠ .payload → SameOn calls others part) :
    draft.written calls = draft.written others := by
  unfold written
  congr 1
  · exact lastGiven_congr .source _ (by grind [Call.part, Edit.part]) (same _ (by decide))
  · exact lastGiven_congr .destination _ (by grind [Call.part, Edit.part]) (same _ (by decide))
  · exact lastGiven_congr .length _ (by grind [Call.part, Edit.part]) (same _ (by decide))
  · exact lastGiven_congr .checksum _ (by grind [Call.part, Edit.part]) (same _ (by decide))
  · exact lastGiven_congr .correctLength _ (by grind [Call.part, Edit.part]) (same _ (by decide))

/-- The first call on an Ethernet draft is an edit. -/
theorem EthernetDraft.written_edit (draft : EthernetDraft) (change : EthernetDraft.Edit)
    (rest : List Call) :
    draft.written (.set (.ethernet change) :: rest) = (draft.edit change).written rest := by
  cases change <;> simp only [written, lastGiven_cons] <;> rfl

/-- The first call on an LLC and SNAP header is an edit. -/
theorem LlcSnapHeader.written_edit (header : LlcSnapHeader) (change : LlcSnapHeader.Edit)
    (rest : List Call) :
    header.written (.set (.llcSnap change) :: rest) = (header.edit change).written rest := by
  cases change <;> simp only [written, lastGiven_cons] <;> rfl

/-- The first call on a UDP draft is an edit. -/
theorem UdpDraft.written_edit (draft : UdpDraft) (change : UdpDraft.Edit) (rest : List Call) :
    draft.written (.set (.udp change) :: rest) = (draft.edit change).written rest := by
  cases change <;> simp only [written, lastGiven_cons] <;> rfl

namespace Draft

/-- A draft after some calls; what a caller defines has no fields to set. -/
def written (draft : Draft) (calls : List Call) : Draft :=
  match draft with
  | ethernet draft => ethernet (draft.written calls)
  | llcSnap header => llcSnap (header.written calls)
  | udp draft => udp (draft.written calls)
  | custom layer => custom layer

/-- The payload that a call puts under a draft. -/
def takes? (draft : Draft) : Call → Option Builder
  | .set _ => none
  | .enclose payload => some payload
  | .attach payload => if draft.takesPayload then some payload else none

/-- The payload that is given last to a draft, or else the one it had. -/
def lastPayload (draft : Draft) (initial : Option Builder) (calls : List Call) : Option Builder :=
  lastGiven (fun call => (draft.takes? call).map some) initial calls

/-- No calls leave a draft as it is. -/
theorem written_nil (draft : Draft) : draft.written [] = draft := by
  cases draft <;> rfl

/-- The first call on a draft is an edit. -/
theorem written_set (draft : Draft) (change : Edit) (rest : List Call) :
    draft.written (.set change :: rest) = (draft.edit change).written rest := by
  cases draft with
  | ethernet draft =>
    cases change with
    | ethernet change => exact congrArg ethernet (draft.written_edit change rest)
    | _ => simp only [written, EthernetDraft.written, lastGiven_cons]; rfl
  | llcSnap header =>
    cases change with
    | llcSnap change => exact congrArg llcSnap (header.written_edit change rest)
    | _ => simp only [written, LlcSnapHeader.written, lastGiven_cons]; rfl
  | udp draft =>
    cases change with
    | udp change => exact congrArg udp (draft.written_edit change rest)
    | _ => simp only [written, UdpDraft.written, lastGiven_cons]; rfl
  | custom layer => rfl

/-- Only the calls on a field matter for it. -/
theorem written_congr (draft : Draft) {calls others : List Call}
    (same : ∀ part, part ≠ .payload → SameOn calls others part) :
    draft.written calls = draft.written others := by
  cases draft with
  | ethernet draft => exact congrArg ethernet (draft.written_congr same)
  | llcSnap header => exact congrArg llcSnap (header.written_congr same)
  | udp draft => exact congrArg udp (draft.written_congr same)
  | custom layer => rfl

/-- A payload does not change the fields of a draft. -/
theorem written_of_payload (draft : Draft) {call : Call} (payload : call.part = .payload)
    (rest : List Call) : draft.written (call :: rest) = draft.written rest :=
  draft.written_congr fun part other =>
    List.filter_cons_of_neg (by simpa [payload] using other.symm)

/-- What a draft takes is a payload. -/
theorem part_of_takes? {draft : Draft} {call : Call} {payload : Builder}
    (takes : draft.takes? call = some payload) : call.part = .payload := by
  cases call with
  | set change => cases takes
  | enclose payload => rfl
  | attach payload => rfl

end Draft

namespace Builder

/-- A draft around a payload, or around nothing. -/
def around (draft : Draft) : Option Builder → Builder
  | none => .bare draft
  | some payload => .wrap draft payload

/-- A builder after some calls: its fields as they were set last, around the payload that was given
last. -/
def written (builder : Builder) (calls : List Call) : Builder :=
  match builder with
  | .unknown data =>
    .unknown (lastGiven (fun | .set (.data data) => some data | _ => none) data calls)
  | .bare draft =>
    around (draft.written calls) (draft.lastPayload none calls)
  | .wrap draft payload =>
    around (draft.written calls) (draft.lastPayload (some payload) calls)

/-- A builder after a call, whether it was refused or not. -/
def after (builder : Builder) : Call → Builder
  | .set change => builder.edit change
  | .enclose payload => if builder.layer?.isSome then builder.withPayload payload else builder
  | .attach payload => if builder.takesPayload then builder.withPayload payload else builder

/-- No calls leave a builder as it is. -/
theorem written_nil (builder : Builder) : builder.written [] = builder := by
  cases builder with
  | unknown data => rfl
  | bare draft => exact congrArg (around · none) draft.written_nil
  | wrap draft payload => exact congrArg (around · (some payload)) draft.written_nil

/-- A draft is the outermost one whatever it is around. -/
theorem layer?_around (draft : Draft) (inside : Option Builder) :
    (around draft inside).layer? = some draft := by
  cases inside <;> rfl

/-- A draft gives its kind to the builder whatever it is around. -/
theorem kind_around (draft : Draft) (inside : Option Builder) :
    (around draft inside).kind = draft.kind := by
  cases inside <;> rfl

/-- A draft around a payload has the fields that were set last and the payload that was given
last. -/
theorem written_around (draft : Draft) (inside : Option Builder) (calls : List Call) :
    (around draft inside).written calls =
      around (draft.written calls) (draft.lastPayload inside calls) := by
  cases inside <;> rfl

/-- Setting a field leaves the payload alone. -/
theorem edit_around (draft : Draft) (inside : Option Builder) (change : Edit) :
    (around draft inside).edit change = around (draft.edit change) inside := by
  cases inside <;> cases change <;> rfl

/-- A payload is put in the place of any earlier one. -/
theorem withPayload_around (draft : Draft) (inside : Option Builder) (payload : Builder) :
    (around draft inside).withPayload payload = around draft (some payload) := by
  rw [withPayload, layer?_around]
  rfl

/-- A draft takes payloads whatever it is around. -/
theorem takesPayload_around (draft : Draft) (inside : Option Builder) :
    (around draft inside).takesPayload = draft.takesPayload := by
  rw [takesPayload, layer?_around]

/-- A draft that was made to hold a payload takes every one. -/
theorem after_enclose_around (draft : Draft) (inside : Option Builder) (payload : Builder) :
    (around draft inside).after (.enclose payload) = around draft (some payload) := by
  rw [after, layer?_around, withPayload_around]
  rfl

/-- Builders for Ethernet, LLC and SNAP and UDP take payloads; raw data and what callers define do
not. -/
theorem takesPayload_iff_sort (builder : Builder) :
    builder.takesPayload = true ↔ builder.sort ∈ [LayerSort.ethernet, .llcSnap, .udp] := by
  have drafts : ∀ draft : Draft,
      draft.takesPayload = true ↔ draft.sort ∈ [LayerSort.ethernet, .llcSnap, .udp] := by
    intro draft
    cases draft <;> simp [Draft.takesPayload, Draft.sort]
  cases builder with
  | unknown data => simp [takesPayload, Chain.layer?, Chain.sort]
  | bare draft => exact drafts draft
  | wrap draft payload => exact drafts draft

/-- Setting fields does not change which payloads a draft takes. -/
theorem takes?_edit (draft : Draft) (change : Edit) :
    (draft.edit change).takes? = draft.takes? := by
  cases draft <;> cases change <;> rfl

/-- The payload that is given last is the one that was given by the later calls, if there is one. -/
theorem lastPayload_cons (draft : Draft) (inside : Option Builder) (call : Call)
    (rest : List Call) :
    draft.lastPayload inside (call :: rest) =
      draft.lastPayload (((draft.takes? call).map some).getD inside) rest :=
  lastGiven_cons _ inside call rest

/-- A call on a draft around a payload, and the calls after it. -/
theorem written_around_cons (draft : Draft) (inside : Option Builder) (call : Call)
    (rest : List Call) :
    (around draft inside).written (call :: rest) =
      ((around draft inside).after call).written rest := by
  rw [written_around, lastPayload_cons]
  cases call with
  | set change =>
    have same : (draft.edit change).lastPayload inside rest = draft.lastPayload inside rest := by
      rw [Draft.lastPayload, takes?_edit]
      rfl
    rw [after, edit_around, written_around, draft.written_set, same]
    rfl
  | enclose payload =>
    rw [after_enclose_around, written_around, draft.written_of_payload rfl]
    rfl
  | attach payload =>
    rw [after, takesPayload_around, draft.written_of_payload rfl]
    by_cases taken : draft.takesPayload = true
    · rw [if_pos taken, withPayload_around, written_around]
      simp [Draft.takes?, taken]
    · rw [if_neg taken, written_around]
      simp [Draft.takes?, taken]

/-- Calls work one after another. -/
theorem written_cons (builder : Builder) (call : Call) (rest : List Call) :
    builder.written (call :: rest) = (builder.after call).written rest := by
  cases builder with
  | bare draft => exact written_around_cons draft none call rest
  | wrap draft payload => exact written_around_cons draft (some payload) call rest
  | unknown data =>
    cases call with
    | set change => cases change <;> simp only [written, lastGiven_cons] <;> rfl
    | enclose payload => rfl
    | attach payload => rfl

/-- The fields as set last and the payload given last are those after all calls, made one after
another. -/
theorem foldl_after (builder : Builder) (calls : List Call) :
    calls.foldl after builder = builder.written calls := by
  induction calls generalizing builder with
  | nil => exact builder.written_nil.symm
  | cons call rest ih => exact (ih (builder.after call)).trans (builder.written_cons call rest).symm

/-- Only the order of the calls on one part matters. -/
theorem written_congr (builder : Builder) {calls others : List Call}
    (same : ∀ part, SameOn calls others part) : builder.written calls = builder.written others := by
  have around_congr : ∀ (draft : Draft) (inside : Option Builder),
      (around draft inside).written calls = (around draft inside).written others := by
    intro draft inside
    have payload : draft.lastPayload inside calls = draft.lastPayload inside others := by
      refine lastGiven_congr .payload inside (fun call value given => ?_) (same .payload)
      obtain ⟨payload, takes, -⟩ := Option.map_eq_some_iff.mp given
      exact Draft.part_of_takes? takes
    rw [written_around, written_around, payload, draft.written_congr fun part _ => same part]
  cases builder with
  | bare draft => exact around_congr draft none
  | wrap draft payload => exact around_congr draft (some payload)
  | unknown data =>
    exact congrArg Chain.unknown
      (lastGiven_congr .data data (by grind [Call.part, Edit.part]) (same .data))

/-- A builder keeps its kind, and goes on to take payloads or to refuse them, whatever call is made
on it. -/
theorem after_akin (builder : Builder) (call : Call) :
    (builder.after call).kind = builder.kind ∧
      (builder.after call).takesPayload = builder.takesPayload := by
  have around_akin : ∀ (draft : Draft) (inside : Option Builder),
      ((around draft inside).after call).kind = draft.kind ∧
        ((around draft inside).after call).takesPayload = draft.takesPayload := by
    intro draft inside
    cases call with
    | set change =>
      rw [after, edit_around, takesPayload_around]
      cases inside <;> cases draft <;> cases change <;> exact ⟨rfl, rfl⟩
    | enclose payload =>
      rw [after_enclose_around, takesPayload_around]
      exact ⟨kind_around draft (some payload), rfl⟩
    | attach payload =>
      rw [after]
      split
      · rw [withPayload_around, takesPayload_around]
        exact ⟨kind_around draft (some payload), rfl⟩
      · exact ⟨kind_around draft inside, takesPayload_around draft inside⟩
  cases builder with
  | bare draft => exact around_akin draft none
  | wrap draft payload => exact around_akin draft (some payload)
  | unknown data =>
    cases call with
    | set change => cases change <;> exact ⟨rfl, rfl⟩
    | enclose payload => exact ⟨rfl, rfl⟩
    | attach payload => exact ⟨rfl, rfl⟩

/-- A builder keeps its kind, and goes on to take payloads or to refuse them, whatever calls are
made on it. -/
theorem written_akin (builder : Builder) (calls : List Call) :
    (builder.written calls).kind = builder.kind ∧
      (builder.written calls).takesPayload = builder.takesPayload := by
  induction calls generalizing builder with
  | nil => rw [written_nil]; exact ⟨rfl, rfl⟩
  | cons call rest ih =>
    rw [written_cons]
    obtain ⟨kind, takes⟩ := builder.after_akin call
    exact ⟨(ih _).1.trans kind, (ih _).2.trans takes⟩

end Builder

end Encapsulation
