import Encapsulation.Builder.Draft
import Encapsulation.Packet

/-!
# Builders

A builder is a chain of drafts. Payloads are put under Ethernet, LLC/SNAP and UDP drafts, in place
of any payload there; raw data and the drafts that a caller defines refuse, and a refusal changes
nothing. A packet gives back a builder with its own fields, in which everything that was worked
out when the packet was built stands as it is.
-/
namespace Encapsulation

/-- A chain of drafts. -/
abbrev Builder := Chain Draft

/-- An operation that is not supported, and why. -/
structure Unsupported where
  /-- What is not supported. -/
  reason : String
deriving DecidableEq

namespace Unsupported

/-- The wording of the error. -/
def message (error : Unsupported) : String := "Unsupported operation: " ++ error.reason

/-- How the error is built. -/
def dump (error : Unsupported) : String :=
  Text.tuple "UnsupportedOperation" [Text.quoted error.reason]

end Unsupported

/-- A builder that would not take a payload. -/
structure Refusal where
  /-- The kind of the builder that refused. -/
  kind : Kind
  /-- The kind of the payload it was given. -/
  payload : Kind

/-- The error that a refusal is reported as. -/
def Refusal.error (refusal : Refusal) : Unsupported :=
  ⟨refusal.kind.name ++ " builder does not take a payload builder"⟩

namespace Builder

/-- The refusal of a payload by a builder. -/
def refusal (builder payload : Builder) : Refusal := ⟨builder.kind, payload.kind⟩

/-- The builder with a payload under its outermost draft, in place of any payload there; raw data
stays as it is. -/
def withPayload (builder payload : Builder) : Builder :=
  match builder.layer? with
  | some draft => .wrap draft payload
  | none => builder

/-- Whether a builder takes payloads: its outermost draft does, and raw data does not. -/
def takesPayload (builder : Builder) : Bool :=
  match builder.layer? with
  | some draft => draft.takesPayload
  | none => false

/-- Put a payload under a builder that takes payloads. -/
def attach (builder payload : Builder) : Except Refusal Builder :=
  if builder.takesPayload then .ok (builder.withPayload payload)
  else .error (builder.refusal payload)

/-- Put payloads under the outermost draft one after another, up to the first refusal. -/
def attachAll (builder : Builder) : List Builder → Except Refusal Builder
  | [] => .ok builder
  | payload :: rest => do (← builder.attach payload).attachAll rest

/-- Put a payload under a draft that was made to hold it; only raw data refuses. -/
def enclose (builder payload : Builder) : Except Refusal Builder :=
  if builder.layer?.isSome then .ok (builder.withPayload payload)
  else .error (builder.refusal payload)

/-- One chain out of some, each enclosing the next; the innermost two are joined first. -/
def stack (outermost : Builder) : List Builder → Except Refusal Builder
  | [] => .ok outermost
  | next :: rest => do outermost.enclose (← stack next rest)

/-- Apply an edit to the outermost draft or raw data; an edit of another protocol changes
nothing. -/
def edit (builder : Builder) (change : Edit) : Builder :=
  match builder, change with
  | .unknown _, .data data => .unknown data
  | .bare draft, change => .bare (draft.edit change)
  | .wrap draft payload, change => .wrap (draft.edit change) payload
  | unchanged, _ => unchanged

end Builder

/-- The builder that a packet gives back: the drafts of its layers. -/
def Packet.reopen (packet : Packet) : Builder := packet.map Layer.reopen

end Encapsulation
