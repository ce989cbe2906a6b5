import Encapsulation.Proofs.Access.Log
import Encapsulation.Proofs.Access.Packet
import Encapsulation.Proofs.Access.Unfold

/-!
# Failures of accesses

A view that is remembered is shown, so an access that fails is one that had to work something out.
The bytes of a packet fail for one reason only: some layer inwards remembers bytes and a length that
differ in number. What such a failure leaves behind is a packet whose bytes are stuck. Asking again
fails in the same way and touches nothing, for all that the layers around the one to blame need from
their headers is remembered by then; and nothing can happen that lets the bytes be had after all, for
every way to them leads through the layer to blame.
-/
namespace Encapsulation

open Memo (Bank)
open Memo.Eval (Unfolds)
open Relation (ReflTransGen)

/-- A view that fails because of its computation is not remembered. -/
theorem Access.remember_failed {object : Object} {view : View} {compute : Access view.Value}
    {step : Memory → Memory → Prop} {known : view.Value → Bank Cell Cell.Value → Prop}
    {fault : Fault} {computing interrupted : List Cell} {before after : Memory}
    (inside : Unfolds step compute before known)
    (failed : remember object view compute computing before =
      .error (.failed fault interrupted) after) :
    after.bank.get? ⟨object, view⟩ = none ∧
      compute (⟨object, view⟩ :: computing) before = .error (.failed fault interrupted) after := by
  unfold remember at failed
  obtain ⟨vacant, reentered | halted⟩ := Memo.Eval.resolve_eq_error failed
  · cases reentered
  · exact ⟨(inside.of_eq_error halted).2 _ List.mem_cons_self vacant, halted⟩

namespace Header

variable {object : Object} {header : Header} {computing : List Cell} {before after : Memory}

/-- Every view of a header is remembered. -/
theorem read_eq_remember (object : Object) (header : Header) (view : View) :
    ∃ compute, header.read object view = Access.remember object view compute := by
  cases view with
  | length => exact ⟨pure header.size, rfl⟩
  | bytes =>
    unfold read readBytes
    exact ⟨_, rfl⟩
  | hex => exact ⟨_, rfl⟩
  | text => exact ⟨_, rfl⟩
  | hash => exact ⟨_, rfl⟩

/-- A view of a header that is remembered is shown, and nothing changes. -/
theorem read_of_filled (view : View) {value : view.Value}
    (filled : before.bank.get? ⟨object, view⟩ = some value) :
    header.read object view computing before = .ok value before := by
  obtain ⟨compute, same⟩ := header.read_eq_remember object view
  rw [same]
  exact Memo.Eval.resolve_of_eq_some compute computing filled

/-- Bytes of a header that were had are remembered. -/
theorem isFilled_of_readBytes {bytes : Bytes}
    (returned : header.readBytes object computing before = .ok bytes after) :
    after.bank.isFilled ⟨object, .bytes⟩ = true := by
  unfold readBytes Access.remember at returned
  exact Memo.Eval.isFilled_of_resolve returned

/-- The bytes of a header are given by its fields, so asking for them does not fail. -/
theorem readBytes_ne_failed {fault : Fault} {interrupted : List Cell} :
    header.readBytes object computing before ≠ .error (.failed fault interrupted) after := by
  intro failed
  unfold readBytes Access.remember at failed
  obtain ⟨-, reentered | halted⟩ := Memo.Eval.resolve_eq_error failed
  · cases reentered
  · cases halted

end Header

namespace Layer

variable {layer : Layer} {object : Object} {payloadBytes : Access Bytes} {computing : List Cell}

/-- The bytes of a layer fail where those of the payload do, if those of the header are remembered. -/
theorem bytesAround_of_failed {memory after : Memory} {halt : Memo.Halt Cell Fault}
    (composed : layer.replacement? = none)
    (headed : layer.header?.isSome = true → memory.bank.isFilled ⟨object, .bytes⟩ = true)
    (failed : payloadBytes computing memory = .error halt after) :
    layer.bytesAround object payloadBytes computing memory = .error halt after := by
  have header : ∃ bytes, layer.withHeader object [] Header.readBytes computing memory =
      .ok bytes memory := by
    unfold withHeader
    cases present : layer.header? with
    | none => exact ⟨[], rfl⟩
    | some header =>
      have full : memory.bank.isFilled ⟨object, .bytes⟩ = true := headed (by rw [present]; rfl)
      obtain ⟨bytes, filled⟩ := Option.isSome_iff_exists.mp full
      exact ⟨bytes, header.read_of_filled .bytes filled⟩
  obtain ⟨bytes, returned⟩ := header
  simp only [bytesAround, composed, Memo.Eval.bind_apply, returned, failed]

/-- The bytes of a layer fail only where those of the payload do, after those of the header were
remembered. -/
theorem bytesAround_failed {before after : Memory} {fault : Fault} {interrupted : List Cell}
    (failed : layer.bytesAround object payloadBytes computing before =
      .error (.failed fault interrupted) after) :
    layer.replacement? = none ∧ ∃ middle : Memory,
      (layer.header?.isSome = true → middle.bank.isFilled ⟨object, .bytes⟩ = true) ∧
        payloadBytes computing middle = .error (.failed fault interrupted) after := by
  unfold bytesAround withHeader at failed
  cases composed : layer.replacement? with
  | some replacement =>
    rw [composed] at failed
    cases failed
  | none =>
    rw [composed] at failed
    refine ⟨rfl, ?_⟩
    rcases Memo.Eval.bind_eq_error.mp failed with halted | ⟨bytes, middle, returned, halted⟩
    · cases present : layer.header? with
      | none =>
        rw [present] at halted
        cases halted
      | some header =>
        rw [present] at halted
        exact absurd halted header.readBytes_ne_failed
    · refine ⟨middle, fun headed => ?_, ?_⟩
      · obtain ⟨header, present⟩ := Option.isSome_iff_exists.mp headed
        rw [present] at returned
        exact header.isFilled_of_readBytes returned
      · rcases Memo.Eval.bind_eq_error.mp halted with halted | ⟨_, _, -, halted⟩
        · exact halted
        · cases halted

end Layer

namespace Packet

/-- A packet remembers bytes and a length that differ in number, which a fault tells. -/
def Clashes (chain : Nat) (bank : Bank Cell Cell.Value) (packet : Packet) (fault : Fault) : Prop :=
  ∃ (bytes : Bytes) (length : Nat), bank.get? ⟨packet.object chain, .bytes⟩ = some bytes ∧
    bank.get? ⟨packet.object chain, .length⟩ = some length ∧ bytes.length ≠ length ∧
      fault = .mismatch packet.kind bytes.length length

/-- The bytes of a packet cannot be had for a fault: it clashes itself, or it remembers no bytes and
puts them together out of those of its header, which are remembered, and of a payload whose bytes
cannot be had. -/
inductive Stuck (chain : Nat) (bank : Bank Cell Cell.Value) (fault : Fault) : Packet → Prop where
  /-- The packet clashes. -/
  | clash (packet : Packet) (clashes : packet.Clashes chain bank fault) :
    Stuck chain bank fault packet
  /-- The payload is stuck. -/
  | inside (layer : Layer) (payload : Packet) (composed : layer.replacement? = none)
    (vacant : bank.get? ⟨object chain (.wrap layer payload), .bytes⟩ = none)
    (headed : layer.header?.isSome = true →
      bank.isFilled ⟨headerObject chain (.wrap layer payload), .bytes⟩ = true)
    (stuck : Stuck chain bank fault payload) :
    Stuck chain bank fault (.wrap layer payload)

variable {book : Book} {fresh chain : Nat} {packet : Packet} {fault : Fault}
  {bank : Bank Cell Cell.Value} {before after : Memory}

/-- A packet that clashes does not have bytes that are as many as its length. -/
theorem Clashes.not_hasBytes (clashes : packet.Clashes chain bank fault) :
    ¬ packet.HasBytes chain bank := by
  rintro ⟨held, content, fits⟩
  obtain ⟨bytes, length, filled, counted, differ, -⟩ := clashes
  obtain rfl : bytes = held := Option.some.inj (filled.symm.trans content)
  exact differ (fits length counted)

/-- A packet that clashes goes on to do so. -/
theorem Clashes.many (clashes : packet.Clashes chain before.bank fault)
    (moments : ReflTransGen (Moment book fresh) before after) :
    packet.Clashes chain after.bank fault := by
  obtain ⟨bytes, length, filled, counted, differ, told⟩ := clashes
  exact ⟨bytes, length, Moment.keeps_many moments filled, Moment.keeps_many moments counted, differ,
    told⟩

namespace Stuck

/-- Where the bytes of a packet are stuck, some layer inwards clashes. -/
theorem clashes (stuck : packet.Stuck chain bank fault) :
    ∃ inner : Packet, inner ∈ packet.walk ∧ inner.Clashes chain bank fault := by
  induction stuck with
  | clash packet clashes => exact ⟨packet, packet.mem_walk_self, clashes⟩
  | inside layer payload composed vacant headed stuck ih =>
    obtain ⟨inner, member, clashes⟩ := ih
    exact ⟨inner, Chain.mem_walk_wrap member, clashes⟩

/-- A packet that is stuck does not have bytes that are as many as its length. -/
theorem not_hasBytes (stuck : packet.Stuck chain bank fault) : ¬ packet.HasBytes chain bank := by
  cases stuck with
  | clash _ clashes => exact clashes.not_hasBytes
  | inside layer payload composed vacant headed stuck =>
    rintro ⟨bytes, content, -⟩
    cases vacant.symm.trans content

end Stuck

/-- A packet in a book that is put together from its parts remembers no bytes a moment later if it
remembers none and its payload does not have bytes that fit. -/
theorem moment_stays_vacant (moment : Moment book fresh before after)
    (booked : book (packet.object chain) = some (.packet packet)) (composes : packet.Composes)
    {payload : Packet} (present : packet.payload? = some payload)
    (lacking : ¬ payload.HasBytes chain before.bank)
    (vacant : before.bank.get? ⟨packet.object chain, .bytes⟩ = none) :
    after.bank.get? ⟨packet.object chain, .bytes⟩ = none := by
  rcases moment.quiet_or_built with ⟨-, -, unchanged⟩ | ⟨object, item, bytes, known, -, rfl, ready⟩
  · have settled : ∀ serial, packet.object chain = .copy serial → serial < fresh := by
      intro serial same
      cases same
    have empty : before.hasBytes (packet.object chain) = false :=
      Memory.hasBytes_eq_false_iff.mpr vacant
    exact Memory.hasBytes_eq_false_iff.mp ((unchanged _ settled).trans empty)
  · by_cases own : object = packet.object chain
    · subst own
      have alike : item = .packet packet := Option.some.inj (known.symm.trans booked)
      exact absurd ((ready chain packet rfl alike composes).payload payload present) lacking
    · have other : Cell.mk object .bytes ≠ ⟨packet.object chain, .bytes⟩ :=
        fun same => own (congrArg Cell.object same)
      rw [Memory.get?_withBytes_of_ne other]
      exact vacant

namespace Stuck

/-- A packet in a book that is stuck is stuck a moment later. -/
theorem keeps (stuck : packet.Stuck chain before.bank fault) (booked : packet.Booked book chain)
    (moment : Moment book fresh before after) : packet.Stuck chain after.bank fault := by
  induction stuck with
  | clash packet clashes => exact .clash packet (clashes.many (.single moment))
  | inside layer payload composed vacant headed stuck ih =>
    -- Building the bytes of the layer takes bytes of the payload that fit, which it does not have.
    have empty : after.bank.get? ⟨object chain (.wrap layer payload), .bytes⟩ = none :=
      moment_stays_vacant moment booked.self ⟨layer, rfl, composed⟩ rfl stuck.not_hasBytes vacant
    exact .inside layer payload composed empty
      (fun present => Moment.isFilled_many (.single moment) (headed present)) (ih booked.payload)

/-- A packet in a book that is stuck stays so from moment to moment. -/
theorem many (stuck : packet.Stuck chain before.bank fault) (booked : packet.Booked book chain)
    (moments : ReflTransGen (Moment book fresh) before after) :
    packet.Stuck chain after.bank fault := by
  induction moments with
  | refl => exact stuck
  | tail _ moment ih => exact ih.keeps booked moment

end Stuck

/-- The bytes of a packet that clashes are held against its length, which fails. -/
theorem checked_of_clashes {memory : Memory} (clashes : packet.Clashes chain memory.bank fault)
    (compose : Access Bytes) (computing : List Cell) :
    checked (packet.object chain) packet.kind compose computing memory =
      .error (.failed fault computing) memory := by
  obtain ⟨bytes, length, filled, counted, differ, rfl⟩ := clashes
  have looked := Memo.Eval.resolve_of_eq_some (compose >>= fun built =>
    Memo.Eval.emit (.bytesBuilt (packet.object chain) packet.kind built.length) >>= fun _ =>
      pure built) computing filled
  unfold checked Access.remember Access.remembered
  rw [Memo.Eval.bind_apply, looked]
  simp only [Memo.Eval.bind_apply, Memo.Eval.peek_apply, counted, if_neg differ,
    Memo.Eval.fail_apply]

/-- Every view of a packet other than its bytes is remembered. -/
theorem read_eq_remember (chain : Nat) (packet : Packet) {view : View} (derived : view ≠ .bytes) :
    ∃ compute, read chain packet view = Access.remember (packet.object chain) view compute := by
  cases view with
  | bytes => exact absurd rfl derived
  | length => cases packet <;> unfold read length <;> exact ⟨_, rfl⟩
  | text => cases packet <;> exact ⟨_, rfl⟩
  | hex => exact ⟨_, rfl⟩
  | hash => exact ⟨_, rfl⟩

/-- A view of a packet other than its bytes that is remembered is shown, and nothing changes. -/
theorem read_of_filled {memory : Memory} {view : View} (derived : view ≠ .bytes)
    {value : view.Value} (filled : memory.bank.get? ⟨packet.object chain, view⟩ = some value)
    (computing : List Cell) : read chain packet view computing memory = .ok value memory := by
  obtain ⟨compute, same⟩ := read_eq_remember chain packet derived
  rw [same]
  exact Memo.Eval.resolve_of_eq_some compute computing filled

/-- The bytes of every packet are put together by some evaluation, and checked. -/
theorem readBytes_eq_checked (chain : Nat) (packet : Packet) :
    ∃ compose, readBytes chain packet = checked (packet.object chain) packet.kind compose := by
  cases packet with
  | unknown data => exact ⟨_, rfl⟩
  | bare layer => exact ⟨_, rfl⟩
  | wrap layer payload => exact ⟨_, rfl⟩

/-- Asking for bytes that are stuck fails, and leaves everything as it is. -/
theorem Stuck.fails {memory : Memory} (stuck : packet.Stuck chain memory.bank fault)
    {computing : List Cell} (apart : ∀ cell ∈ computing, cell ∉ reach chain packet.depth 1) :
    ∃ interrupted, readBytes chain packet computing memory =
      .error (.failed fault interrupted) memory := by
  induction stuck generalizing computing with
  | clash packet clashes =>
    obtain ⟨compose, same⟩ := readBytes_eq_checked chain packet
    rw [same]
    exact ⟨computing, checked_of_clashes clashes compose computing⟩
  | inside layer payload composed vacant headed stuck ih =>
    -- The own cell is being computed around the payload, which never asks for it.
    let own : Cell := ⟨object chain (.wrap layer payload), .bytes⟩
    have outside : own ∉ computing := by
      intro entered
      exact apart own entered ⟨rfl, .inr ⟨rfl, Nat.zero_lt_one⟩⟩
    have apartInside : ∀ cell ∈ own :: computing, cell ∉ reach chain payload.depth 1 := by
      intro cell entered inner
      rcases List.mem_cons.mp entered with rfl | entered
      · obtain ⟨-, less | ⟨same, -⟩⟩ := packet_mem_reach.mp inner
        · exact Nat.not_succ_lt_self less
        · exact Nat.succ_ne_self _ same
      · exact apart cell entered (reach_mono chain _ (Nat.zero_le 1) (reach_succ chain _ 1 inner))
    obtain ⟨interrupted, failed⟩ := ih apartInside
    have around : layer.bytesAround (headerObject chain (.wrap layer payload))
        (readBytes chain payload) (own :: computing) memory =
          .error (.failed fault interrupted) memory :=
      Layer.bytesAround_of_failed composed headed failed
    refine ⟨interrupted, ?_⟩
    change checked own.object layer.kind (layer.bytesAround (headerObject chain (.wrap layer payload))
      (readBytes chain payload)) computing memory = _
    unfold checked Access.remember
    rw [Memo.Eval.bind_apply, Memo.Eval.resolve_of_eq_none _ vacant outside, Memo.Eval.bind_apply,
      around]

/-- Where checked bytes fail, either putting them together did, and none are remembered, or they
clash with the length. -/
theorem checked_failed {compose : Access Bytes}
    (booked : book (packet.object chain) = some (.packet packet))
    (inside : Unfolds (Moment book 0) compose before fun _ bank =>
      packet.Composes → packet.PartsReady chain bank)
    {computing interrupted : List Cell}
    (failed : checked (packet.object chain) packet.kind compose computing before =
      .error (.failed fault interrupted) after) :
    (after.bank.get? ⟨packet.object chain, .bytes⟩ = none ∧
        compose (⟨packet.object chain, .bytes⟩ :: computing) before =
          .error (.failed fault interrupted) after) ∨
      packet.Clashes chain after.bank fault := by
  unfold checked at failed
  rcases Memo.Eval.bind_eq_error.mp failed with halted | ⟨bytes, middle, returned, halted⟩
  · obtain ⟨vacant, reentered | halted⟩ := Memo.Eval.resolve_eq_error halted
    · cases reentered
    · rcases Memo.Eval.bind_eq_error.mp halted with halted | ⟨_, _, -, halted⟩
      · exact .inl ⟨(inside.of_eq_error halted).2 _ List.mem_cons_self vacant, halted⟩
      · cases halted
  · -- The bytes were had, so it is the check against the length that failed.
    have filled := ((built_unfolds (Moment.follows book 0) booked before inside).of_eq_ok returned).2.2
    rcases Memo.Eval.bind_eq_error.mp halted with halted | ⟨content, last, looked, halted⟩
    · cases halted
    · obtain ⟨rfl, rfl⟩ := EStateM.Result.ok.inj looked
      cases counted : middle.bank.get? ⟨packet.object chain, .length⟩ with
      | none =>
        rw [counted] at halted
        cases halted
      | some length =>
        rw [counted] at halted
        by_cases same : bytes.length = length
        · simp only [if_pos same] at halted
          cases halted
        · simp only [if_neg same] at halted
          obtain ⟨cause, rfl⟩ := EStateM.Result.error.inj halted
          obtain ⟨rfl, -⟩ := Memo.Halt.failed.inj cause
          exact .inr ⟨bytes, length, filled, counted, same, rfl⟩

/-- What a failure to read the bytes of a packet in a book leaves behind is stuck. -/
theorem stuck_of_failed (booked : packet.Booked book chain) {computing interrupted : List Cell}
    (failed : readBytes chain packet computing before = .error (.failed fault interrupted) after) :
    packet.Stuck chain after.bank fault := by
  have follows := Moment.follows book 0
  induction packet generalizing computing before with
  | unknown data =>
    rcases checked_failed booked.self (unknown_unfolds data before) failed with
      ⟨-, halted⟩ | clashes
    · cases halted
    · exact .clash _ clashes
  | bare layer =>
    rcases checked_failed booked.self (bare_unfolds follows booked before) failed with
      ⟨-, halted⟩ | clashes
    · obtain ⟨-, middle, -, halted⟩ := Layer.bytesAround_failed halted
      cases halted
    · exact .clash _ clashes
  | wrap layer payload ih =>
    have bytes : ∀ memory, Unfolds (Moment book 0) (readBytes chain payload) memory
        fun _ bank => HasBytes chain payload bank := readBytes_unfolds follows booked.payload
    rcases checked_failed booked.self (wrap_unfolds follows booked before bytes) failed with
      ⟨vacant, halted⟩ | clashes
    · obtain ⟨composed, middle, headed, halted⟩ := Layer.bytesAround_failed halted
      have moments := ((bytes middle).of_eq_error halted).1
      exact .inside layer payload composed vacant
        (fun present => Moment.isFilled_many moments (headed present)) (ih booked.payload halted)
    · exact .clash _ clashes

/-- What is worked out from bytes that fail is not remembered, and the bytes are stuck. -/
theorem ofBytes_failed (booked : packet.Booked book chain) {view : View}
    {derive : Bytes → view.Value} {computing interrupted : List Cell}
    (failed : Access.remember (packet.object chain) view
      (readBytes chain packet >>= fun bytes => pure (derive bytes)) computing before =
        .error (.failed fault interrupted) after) :
    after.bank.get? ⟨packet.object chain, view⟩ = none ∧ packet.Stuck chain after.bank fault := by
  have inside : Unfolds (Moment book 0)
      (readBytes chain packet >>= fun bytes => pure (derive bytes)) before fun _ _ => True :=
    (readBytes_unfolds (Moment.follows book 0) booked before).map fun _ _ _ => trivial
  obtain ⟨vacant, halted⟩ := Access.remember_failed inside failed
  rcases Memo.Eval.bind_eq_error.mp halted with halted | ⟨_, _, -, halted⟩
  · exact ⟨vacant, stuck_of_failed booked halted⟩
  · cases halted

/-- A length that fails is not remembered. -/
theorem length_failed (booked : packet.Booked book chain) {computing interrupted : List Cell}
    (failed : length chain packet computing before = .error (.failed fault interrupted) after) :
    after.bank.get? ⟨packet.object chain, .length⟩ = none := by
  have follows := Moment.follows book 0
  have admits : packet.Admits (Moment book 0) chain .length := follows.admits booked (by decide)
  have bytes := booked.bytes_unfold follows
  cases packet with
  | unknown data =>
    have inside : Unfolds (Moment book 0) (pure data.length : Access Nat) before fun _ _ => True :=
      .pure trivial
    exact (Access.remember_failed inside failed).1
  | bare layer =>
    have nothing : ∀ memory, Unfolds (Moment book 0) (pure 0 : Access Nat) memory
        fun _ bank => PayloadHas chain (.bare layer) .length bank :=
      fun memory => .pure (payloadHas_bare chain layer .length memory.bank)
    have inside := lengthAround_unfolds rfl admits before nothing
      fun _ => bytes (.bare layer) (Chain.mem_walk_self _) before
    exact (Access.remember_failed inside failed).1
  | wrap layer payload =>
    have within : payload ∈ Chain.walk (.wrap layer payload) :=
      Chain.mem_walk_wrap payload.mem_walk_self
    have counted : ∀ memory, Unfolds (Moment book 0) (length chain payload) memory
        fun _ bank => PayloadHas chain (.wrap layer payload) .length bank :=
      fun memory => (length_unfolds (admits.inner within) memory fun inner member _ =>
        bytes inner (Chain.mem_walk_wrap member)).weaken fun _ _ filled => payloadHas_wrap filled
    have inside := lengthAround_unfolds rfl admits before counted
      fun _ => bytes (.wrap layer payload) (Chain.mem_walk_self _) before
    exact (Access.remember_failed inside failed).1

/-- A view of a packet that fails is not remembered, unless it is the bytes, and leaves the bytes
stuck, unless it is the length. A text does not fail. -/
theorem read_failed (booked : packet.Booked book chain) {view : View} (other : view ≠ .text)
    {computing interrupted : List Cell}
    (failed : read chain packet view computing before = .error (.failed fault interrupted) after) :
    (view ≠ .bytes → after.bank.get? ⟨packet.object chain, view⟩ = none) ∧
      (view ≠ .length → packet.Stuck chain after.bank fault) := by
  cases view with
  | text => exact absurd rfl other
  | length => exact ⟨fun _ => length_failed booked failed, fun differs => absurd rfl differs⟩
  | bytes => exact ⟨fun differs => absurd rfl differs, fun _ => stuck_of_failed booked failed⟩
  | hex => exact (ofBytes_failed booked failed).imp (fun vacant _ => vacant) fun stuck _ => stuck
  | hash => exact (ofBytes_failed booked failed).imp (fun vacant _ => vacant) fun stuck _ => stuck

/-- What the length of a packet fails for is told by a layer that clashes, or by a length that does
not fit. -/
theorem Faulty.blame (faulty : packet.Faulty chain fault bank) :
    ∃ inner : Packet, inner ∈ packet.walk ∧
      (inner.Clashes chain bank fault ∨ fault = .overflow ∧ UInt64.size ≤ inner.plainLength) := by
  obtain ⟨inner, member, blame⟩ := faulty
  refine ⟨inner, member, ?_⟩
  cases fault with
  | overflow => exact .inr ⟨rfl, blame⟩
  | mismatch kind counted remembered =>
    obtain ⟨rfl, differ, ⟨bytes, filled, rfl⟩, known⟩ := blame
    exact .inl ⟨bytes, remembered, filled, known, differ, rfl⟩

end Packet

end Encapsulation
