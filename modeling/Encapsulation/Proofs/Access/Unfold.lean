import Encapsulation.Access.Equality
import Encapsulation.Proofs.Access.Dependence

/-!
# Accesses step by step

Every access to packets and headers that a book lists goes on in steps of any kind that go by the
book: it remembers views after what they are worked out from, and builds bytes out of what it has
asked for before. Lengths and texts by themselves ask for nothing but lengths and texts, so they
unfold in steps of any kind that let those be remembered; bytes come in where a caller asks for them
by the way a layer is measured or a header is shown.
-/
namespace Encapsulation

open Memo (Bank)
open Memo.Eval (Unfolds)
open Relation (ReflTransGen)

variable {step : Memory → Memory → Prop} {book : Book} {before : Memory}

/-- A view is remembered if it can be worked out from what it asks for. -/
theorem Access.remember_unfolds {object : Object} {view : View} {compute : Access view.Value}
    {ready : Bank Cell Cell.Value → Prop} (lets : Lets step ⟨object, view⟩ ready)
    (inside : Unfolds step compute before fun _ bank => ready bank) :
    Unfolds step (remember object view compute) before
      fun _ bank => bank.isFilled ⟨object, view⟩ = true := by
  have resolved : Unfolds step (Memo.Eval.resolve ⟨object, view⟩ compute) before
      fun value bank => bank.get? ⟨object, view⟩ = some value :=
    inside.resolve fun value state vacant holds => lets state value vacant holds
  exact resolved.weaken fun value _ filled => Option.isSome_iff_exists.mpr ⟨value, filled⟩

/-- The sum of two lengths touches nothing, so what is known of the bank is known of it still. -/
theorem Access.addLengths_unfolds {known : Bank Cell Cell.Value → Prop} (holds : known before.bank)
    (first second : Nat) :
    Unfolds step (addLengths first second) before fun _ bank => known bank := by
  unfold addLengths
  by_cases fits : first + second < UInt64.size
  · rw [if_pos fits]
    exact .pure holds
  · rw [if_neg fits]
    exact .fail _

namespace Header

variable {object otherObject : Object} {header other : Header}

/-- The length of a header is remembered. -/
theorem length_unfolds
    (lets : Lets step ⟨object, .length⟩ (Supplied (header.needs object .length)))
    (before : Memory) :
    Unfolds step (header.length object) before
      fun _ bank => bank.isFilled ⟨object, .length⟩ = true :=
  Access.remember_unfolds lets (.pure fun _ member => member.elim)

/-- The bytes of a header are built where they are not remembered yet. -/
theorem readBytes_unfolds (follows : Follows book step)
    (booked : book object = some (.header header)) (before : Memory) :
    Unfolds step (header.readBytes object) before
      fun bytes bank => bank.get? ⟨object, .bytes⟩ = some bytes := by
  have given : Unfolds step (pure header.bytes : Access Bytes) before
      fun bytes _ => bytes = header.bytes := .pure rfl
  have built : Unfolds step
      (Memo.Eval.resolve ⟨object, .bytes⟩ ((pure header.bytes : Access Bytes) >>= fun bytes =>
        Memo.Eval.emit (.bytesBuilt object header.kind bytes.length) >>= fun _ => pure bytes))
      before fun bytes bank => bank.get? ⟨object, .bytes⟩ = some bytes := by
    refine given.resolve_reported fun bytes state vacant same => ?_
    subst same
    exact follows.buildHeader state object header booked vacant
  exact built

/-- What is worked out from the bytes of a header is remembered. -/
theorem ofBytes_unfolds (follows : Follows book step)
    (booked : book object = some (.header header)) (view : View) (derived : view ≠ .bytes)
    (worked : header.needs object view = {⟨object, .bytes⟩}) (derive : Bytes → view.Value)
    (before : Memory) :
    Unfolds step
      (Access.remember object view (header.readBytes object >>= fun bytes => pure (derive bytes)))
      before fun _ bank => bank.isFilled ⟨object, view⟩ = true := by
  refine Access.remember_unfolds (follows.derive_header booked derived) ?_
  refine (readBytes_unfolds follows booked before).map fun bytes bank filled => ?_
  rw [worked]
  rintro cell rfl
  exact Option.isSome_iff_exists.mpr ⟨bytes, filled⟩

/-- The text of a header is remembered; it shows the bytes only for a caller's header. -/
theorem text_unfolds (texts : Lets step ⟨object, .text⟩ (Supplied (header.needs object .text)))
    (lengths : Lets step ⟨object, .length⟩ (Supplied (header.needs object .length)))
    (before : Memory)
    (shown : ∀ fields, header = .custom fields →
      Unfolds step (header.hex object) before
        fun _ bank => bank.isFilled ⟨object, .hex⟩ = true) :
    Unfolds step (header.text object) before
      fun _ bank => bank.isFilled ⟨object, .text⟩ = true := by
  have counted := length_unfolds lengths before
  refine Access.remember_unfolds texts ?_
  cases header with
  | ethernet fields => exact counted.map fun _ _ filled cell same => same ▸ filled
  | llcSnap fields => exact counted.map fun _ _ filled cell same => same ▸ filled
  | udp fields => exact counted.map fun _ _ filled cell same => same ▸ filled
  | custom fields =>
    cases given : fields.text with
    | some text =>
      simp only [given]
      refine .pure fun cell member => ?_
      cases given.symm.trans member.1
    | none =>
      simp only [given]
      exact (shown fields rfl).weaken fun _ _ filled cell member => member.2 ▸ filled

/-- Every view of a header in a book unfolds in steps that go by the book. -/
theorem read_unfolds (follows : Follows book step) (booked : book object = some (.header header))
    (view : View) (before : Memory) :
    Unfolds step (header.read object view) before
      fun _ bank => bank.isFilled ⟨object, view⟩ = true := by
  have hex := ofBytes_unfolds follows booked .hex (by decide) rfl (Bytes.toHex ":") before
  cases view with
  | length => exact length_unfolds (follows.derive_header booked (by decide)) before
  | bytes =>
    exact (readBytes_unfolds follows booked before).weaken fun bytes _ filled =>
      Option.isSome_iff_exists.mpr ⟨bytes, filled⟩
  | hex => exact hex
  | text =>
    exact text_unfolds (follows.derive_header booked (by decide))
      (follows.derive_header booked (by decide)) before fun _ _ => hex
  | hash => exact ofBytes_unfolds follows booked .hash (by decide) rfl Bytes.hash before

/-- A comparison of headers in a book unfolds in steps that go by the book. -/
theorem equals_unfolds (follows : Follows book step) (booked : book object = some (.header header))
    (otherBooked : book otherObject = some (.header other)) (before : Memory) :
    Unfolds step (header.equals object otherObject other) before fun _ _ => True := by
  have compared : Unfolds step
      (header.readBytes object >>= fun own => other.readBytes otherObject >>= fun others =>
        pure (own == others)) before fun _ _ => True :=
    (readBytes_unfolds follows booked before).bind fun _ middle _ _ =>
      (readBytes_unfolds follows otherBooked middle).map fun _ _ _ => trivial
  unfold equals
  by_cases same : object = otherObject
  · simp only [if_pos same]
    exact .pure trivial
  · simp only [if_neg same]
    by_cases refused : (!header.kind.accepts other.kind) = true
    · simp only [if_pos refused]
      exact .pure trivial
    · simp only [if_neg refused]
      exact compared

end Header

/-- What is taken from the header of a layer unfolds if it does for every header, and is known of
the header in the end. -/
theorem Layer.withHeader_unfolds {layer : Layer} {object : Object} {α : Type} {absent : α}
    {view : Object → Header → Access α} {known : α → Bank Cell Cell.Value → Prop}
    (headless : layer.header? = none → known absent before.bank)
    (present : ∀ header, layer.header? = some header →
      Unfolds step (view object header) before known) :
    Unfolds step (layer.withHeader object absent view) before known := by
  unfold withHeader
  cases own : layer.header? with
  | none => exact .pure (headless own)
  | some header => exact present header own

namespace Packet

variable {chain : Nat} {packet : Packet}

namespace Booked

/-- A book that lists a packet lists each packet in it. -/
theorem inner {inner : Packet} (booked : packet.Booked book chain) (member : inner ∈ packet.walk) :
    inner.Booked book chain :=
  fun further walked => booked further (Chain.mem_walk_trans member walked)

/-- A book that lists a packet lists its payload. -/
theorem payload {layer : Layer} {payload : Packet}
    (booked : Packet.Booked book chain (.wrap layer payload)) : payload.Booked book chain :=
  booked.inner (Chain.mem_walk_wrap payload.mem_walk_self)

/-- A book that lists a packet has it under its object. -/
theorem self (booked : packet.Booked book chain) :
    book (packet.object chain) = some (.packet packet) :=
  (booked packet packet.mem_walk_self).1

/-- A book that lists a packet has its header under the object of the header. -/
theorem header {header : Header} (booked : packet.Booked book chain)
    (present : packet.header? = some header) :
    book (packet.headerObject chain) = some (.header header) :=
  (booked packet packet.mem_walk_self).2 header present

end Booked

/-- The view of the header of a packet is remembered, if it has one. -/
def HeaderHas (chain : Nat) (packet : Packet) (view : View) (bank : Bank Cell Cell.Value) : Prop :=
  packet.header?.isSome = true → bank.isFilled ⟨packet.headerObject chain, view⟩ = true

/-- The view of the payload of a packet is remembered, if it has one. -/
def PayloadHas (chain : Nat) (packet : Packet) (view : View) (bank : Bank Cell Cell.Value) : Prop :=
  ∀ payload : Packet, packet.payload? = some payload →
    bank.isFilled ⟨payload.object chain, view⟩ = true

/-- The parts of a packet are supplied if the view is remembered of its header and its payload. -/
theorem supplied_parts {view : View} {bank : Bank Cell Cell.Value}
    (had : packet.HeaderHas chain view bank ∧ packet.PayloadHas chain view bank) :
    Supplied (packet.parts chain view) bank := by
  rintro cell (⟨headed, rfl⟩ | ⟨payload, present, rfl⟩)
  · exact had.1 headed
  · exact had.2 payload present

/-- What is put together from something of the header and something of the payload of a packet: in
the end the view of the header is remembered, and what is known of the payload is known still. -/
theorem parts_unfold {layer : Layer} {α γ : Type} {own : Object → Header → Access α}
    {inside : Access α} {finish : α → α → Access γ} {view : View}
    {known : Bank Cell Cell.Value → Prop} (absent : α) (outermost : packet.layer? = some layer)
    (retains : Retains step) (before : Memory)
    (headed : ∀ header, packet.header? = some header →
      Unfolds step (own (packet.headerObject chain) header) before
        fun _ bank => bank.isFilled ⟨packet.headerObject chain, view⟩ = true)
    (had : ∀ memory, Unfolds step inside memory fun _ bank => known bank)
    (idle : ∀ (goal : Bank Cell Cell.Value → Prop) (first second : α) (memory : Memory),
      goal memory.bank → Unfolds step (finish first second) memory fun _ bank => goal bank) :
    Unfolds step
      (layer.withHeader (packet.headerObject chain) absent own >>= fun first =>
        inside >>= fun second => finish first second)
      before fun _ bank => packet.HeaderHas chain view bank ∧ known bank := by
  have same := header?_of_layer outermost
  have header : Unfolds step (layer.withHeader (packet.headerObject chain) absent own) before
      fun _ bank => packet.HeaderHas chain view bank := by
    refine Layer.withHeader_unfolds (fun headless present => ?_) fun header present => ?_
    · rw [same, headless] at present
      cases present
    · exact (headed header (same.trans present)).weaken fun _ _ filled _ => filled
  refine header.bind fun first middle _ filled => ?_
  refine (had middle).bind fun second last steps holds => ?_
  exact idle _ first second last ⟨fun present => retains.many steps (filled present), holds⟩

/-- What is worked out from two values alone touches nothing. -/
theorem idle_pure {α γ : Type} (value : α → α → γ) (goal : Bank Cell Cell.Value → Prop)
    (first second : α) (memory : Memory) (holds : goal memory.bank) :
    Unfolds step (pure (value first second) : Access γ) memory fun _ bank => goal bank :=
  .pure holds

/-- The bytes of a packet are remembered once they are put together out of parts that are. -/
theorem built_unfolds {compose : Access Bytes} (follows : Follows book step)
    (booked : book (packet.object chain) = some (.packet packet)) (before : Memory)
    (inside : Unfolds step compose before fun _ bank =>
      packet.Composes → packet.PartsReady chain bank) :
    Unfolds step
      (Access.remember (packet.object chain) .bytes (compose >>= fun bytes =>
        Memo.Eval.emit (.bytesBuilt (packet.object chain) packet.kind bytes.length) >>= fun _ =>
          pure bytes))
      before fun bytes bank => bank.get? ⟨packet.object chain, .bytes⟩ = some bytes :=
  inside.resolve_reported fun bytes state vacant ready =>
    follows.buildPacket state chain packet bytes booked vacant ready

/-- The bytes of a packet are built where they are not remembered yet, and are held against a
remembered length. -/
theorem checked_unfolds {compose : Access Bytes} (follows : Follows book step)
    (booked : book (packet.object chain) = some (.packet packet)) (before : Memory)
    (inside : Unfolds step compose before fun _ bank =>
      packet.Composes → packet.PartsReady chain bank) :
    Unfolds step (checked (packet.object chain) packet.kind compose) before
      fun _ bank => packet.HasBytes chain bank := by
  refine (built_unfolds follows booked before inside).bind fun bytes middle _ filled => ?_
  have looked : Unfolds step (Access.remembered (packet.object chain) .length) middle
      fun content bank => bank.get? ⟨packet.object chain, .length⟩ = content := .peek rfl
  refine looked.bind fun content last steps known => ?_
  have still : last.bank.get? ⟨packet.object chain, .bytes⟩ = some bytes :=
    follows.keeps_many steps filled
  cases content with
  | none =>
    refine .pure ⟨bytes, still, fun length remembered => ?_⟩
    cases known.symm.trans remembered
  | some length =>
    by_cases same : bytes.length = length
    · simp only [if_pos same]
      refine .pure ⟨bytes, still, fun remembered content => ?_⟩
      rw [same]
      exact Option.some.inj (known.symm.trans content)
    · simp only [if_neg same]
      exact .fail _

/-- The bytes of a layer ask for those of its header and then for those of its payload. -/
theorem bytesAround_unfolds {layer : Layer} {payloadBytes : Access Bytes}
    (follows : Follows book step) (outermost : packet.layer? = some layer)
    (booked : packet.Booked book chain) (before : Memory)
    (inside : ∀ memory, Unfolds step payloadBytes memory fun _ bank =>
      ∀ payload : Packet, packet.payload? = some payload → payload.HasBytes chain bank) :
    Unfolds step (layer.bytesAround (packet.headerObject chain) payloadBytes) before
      fun _ bank => packet.Composes → packet.PartsReady chain bank := by
  unfold Layer.bytesAround
  cases replaced : layer.replacement? with
  | some replacement =>
    refine .pure fun ⟨found, same, composed⟩ => ?_
    obtain rfl : layer = found := Option.some.inj (outermost.symm.trans same)
    cases replaced.symm.trans composed
  | none =>
    have headed : ∀ header, packet.header? = some header →
        Unfolds step (header.readBytes (packet.headerObject chain)) before
          fun _ bank => bank.isFilled ⟨packet.headerObject chain, .bytes⟩ = true :=
      fun header present => header.read_unfolds follows (booked.header present) .bytes before
    exact (parts_unfold [] outermost follows.retains before headed inside (idle_pure _)).weaken
      fun _ _ had _ => ⟨had.1, had.2⟩

/-- The bytes of a layer around a payload are put together out of those of its header and payload. -/
theorem wrap_unfolds {layer : Layer} {payload : Packet} (follows : Follows book step)
    (booked : Packet.Booked book chain (.wrap layer payload)) (before : Memory)
    (inside : ∀ memory, Unfolds step (readBytes chain payload) memory fun _ bank =>
      payload.HasBytes chain bank) :
    Unfolds step
      (layer.bytesAround (headerObject chain (.wrap layer payload)) (readBytes chain payload))
      before
      fun _ bank => Composes (.wrap layer payload) → PartsReady chain (.wrap layer payload) bank := by
  refine bytesAround_unfolds follows rfl booked before fun memory => ?_
  refine (inside memory).weaken fun _ bank had other present => ?_
  obtain rfl : payload = other := Option.some.inj present
  exact had

/-- The bytes of a layer without a payload are put together out of those of its header. -/
theorem bare_unfolds {layer : Layer} (follows : Follows book step)
    (booked : Packet.Booked book chain (.bare layer)) (before : Memory) :
    Unfolds step
      (layer.bytesAround (headerObject chain (.bare layer)) (pure [])) before
      fun _ bank => Composes (.bare layer) → PartsReady chain (.bare layer) bank :=
  bytesAround_unfolds follows rfl booked before fun memory => .pure fun payload present => by
    cases present

/-- Raw data is given. -/
theorem unknown_unfolds (data : Bytes) (before : Memory) :
    Unfolds step (pure data : Access Bytes) before
      fun _ bank => Composes (.unknown data) → PartsReady chain (.unknown data) bank :=
  .pure fun ⟨layer, outermost, _⟩ => by cases outermost

/-- The bytes of a packet in a book are had in steps that go by the book. -/
theorem readBytes_unfolds (follows : Follows book step) (booked : packet.Booked book chain)
    (before : Memory) :
    Unfolds step (readBytes chain packet) before
      fun _ bank => packet.HasBytes chain bank := by
  induction packet generalizing before with
  | unknown data =>
    exact checked_unfolds follows booked.self before (unknown_unfolds data before)
  | bare layer =>
    exact checked_unfolds follows booked.self before (bare_unfolds follows booked before)
  | wrap layer payload ih =>
    exact checked_unfolds follows booked.self before
      (wrap_unfolds follows booked before (ih booked.payload))

/-- Bytes that are remembered, and fit, are remembered. -/
theorem HasBytes.isFilled {bank : Bank Cell Cell.Value} (had : packet.HasBytes chain bank) :
    bank.isFilled ⟨packet.object chain, .bytes⟩ = true := by
  obtain ⟨bytes, filled, -⟩ := had
  exact Option.isSome_iff_exists.mpr ⟨bytes, filled⟩

/-- The bytes of every layer of a packet in a book are had in steps that go by the book. -/
theorem Booked.bytes_unfold (booked : packet.Booked book chain) (follows : Follows book step)
    (inner : Packet) (member : inner ∈ packet.walk) (before : Memory) :
    Unfolds step (readBytes chain inner) before
      fun _ bank => bank.isFilled ⟨inner.object chain, .bytes⟩ = true :=
  (readBytes_unfolds follows (booked.inner member) before).weaken fun _ _ had => had.isFilled

/-- The length of a layer unfolds by its rule: it asks for the lengths of header and payload or for
the bytes of the layer. -/
theorem lengthAround_unfolds {layer : Layer} {payloadLength : Access Nat} {ownBytes : Access Bytes}
    (outermost : packet.layer? = some layer) (admits : packet.Admits step chain .length)
    (before : Memory)
    (inside : ∀ memory, Unfolds step payloadLength memory fun _ bank =>
      packet.PayloadHas chain .length bank)
    (measured : layer.lengthRule = .measured → Unfolds step ownBytes before fun _ bank =>
      bank.isFilled ⟨packet.object chain, .bytes⟩ = true) :
    Unfolds step (layer.lengthAround (packet.headerObject chain) payloadLength ownBytes) before
      fun _ bank => Supplied (packet.needs chain .length) bank := by
  have own : ∀ rule, packet.HasRule rule → layer.lengthRule = rule := by
    rintro rule ⟨found, same, known⟩
    exact (congrArg Layer.lengthRule (Option.some.inj (outermost.symm.trans same))).trans known
  unfold Layer.lengthAround
  cases rule : layer.lengthRule with
  | fixed count =>
    refine .pure fun cell => ?_
    rintro (⟨composed, -⟩ | ⟨other, -⟩)
    · cases rule.symm.trans (own _ composed)
    · cases rule.symm.trans (own _ other)
  | measured =>
    refine (measured rule).map fun _ bank filled cell => ?_
    rintro (⟨composed, -⟩ | ⟨-, rfl⟩)
    · cases rule.symm.trans (own _ composed)
    · exact filled
  | composed =>
    have headed : ∀ header, packet.header? = some header →
        Unfolds step (header.length (packet.headerObject chain)) before
          fun _ bank => bank.isFilled ⟨packet.headerObject chain, .length⟩ = true :=
      fun header present =>
        header.length_unfolds (admits.headers packet packet.mem_walk_self header present) before
    have summed := parts_unfold 0 outermost admits.retains before headed inside
      fun goal first second memory holds =>
        (Access.addLengths_unfolds holds first second).bind fun sum last _ known =>
          Access.addLengths_unfolds known sum layer.pad.length
    refine summed.weaken fun _ bank had cell => ?_
    rintro (⟨-, member⟩ | ⟨other, -⟩)
    · exact supplied_parts had cell member
    · cases rule.symm.trans (own _ other)

/-- The text of a layer unfolds if those of its header and payload do. -/
theorem textAround_unfolds {layer : Layer} {payloadText : Access String}
    (outermost : packet.layer? = some layer) (retains : Retains step) (before : Memory)
    (shown : ∀ header, packet.header? = some header →
      Unfolds step (header.text (packet.headerObject chain)) before
        fun _ bank => bank.isFilled ⟨packet.headerObject chain, .text⟩ = true)
    (inside : ∀ memory, Unfolds step payloadText memory fun _ bank =>
      packet.PayloadHas chain .text bank) :
    Unfolds step (layer.textAround (packet.headerObject chain) payloadText) before
      fun _ bank => Supplied (packet.needs chain .text) bank := by
  have joined := parts_unfold "" outermost retains before shown inside
    (idle_pure fun front back => front ++ back ++ layer.padText)
  refine joined.weaken fun _ bank had cell => ?_
  rintro (⟨raw, -⟩ | member)
  · cases packet with
    | unknown data => cases outermost
    | bare other => cases raw
    | wrap other payload => cases raw
  · exact supplied_parts had cell member

/-- A packet without a payload has none of which anything would have to be remembered. -/
theorem payloadHas_bare (chain : Nat) (layer : Layer) (view : View)
    (bank : Bank Cell Cell.Value) : PayloadHas chain (.bare layer) view bank := by
  intro payload present
  cases present

/-- What is remembered of the payload of a layer is remembered of the one it has. -/
theorem payloadHas_wrap {layer : Layer} {payload : Packet} {view : View}
    {bank : Bank Cell Cell.Value} (filled : bank.isFilled ⟨payload.object chain, view⟩ = true) :
    PayloadHas chain (.wrap layer payload) view bank := by
  intro other present
  obtain rfl : payload = other := Option.some.inj present
  exact filled

/-- The length of a packet unfolds in steps of any kind that let it be remembered, if the bytes of
the layers that are measured do. -/
theorem length_unfolds (admits : packet.Admits step chain .length) (before : Memory)
    (measured : ∀ inner : Packet, inner ∈ packet.walk → inner.HasRule .measured →
      ∀ memory, Unfolds step (readBytes chain inner) memory fun _ bank =>
        bank.isFilled ⟨inner.object chain, .bytes⟩ = true) :
    Unfolds step (length chain packet) before
      fun _ bank => bank.isFilled ⟨packet.object chain, .length⟩ = true := by
  have lets := admits.layers packet packet.mem_walk_self
  induction packet generalizing before with
  | unknown data =>
    refine Access.remember_unfolds lets (.pure fun cell => ?_)
    rintro (⟨⟨layer, outermost, -⟩, -⟩ | ⟨⟨layer, outermost, -⟩, -⟩) <;> cases outermost
  | bare layer =>
    refine Access.remember_unfolds lets ?_
    exact lengthAround_unfolds rfl admits before
      (fun memory => .pure (payloadHas_bare chain layer .length memory.bank))
      fun rule => measured _ (Chain.mem_walk_self _) ⟨layer, rfl, rule⟩ before
  | wrap layer payload ih =>
    have within : payload ∈ Chain.walk (.wrap layer payload) :=
      Chain.mem_walk_wrap payload.mem_walk_self
    refine Access.remember_unfolds lets ?_
    refine lengthAround_unfolds rfl admits before (fun memory => ?_)
      fun rule => measured _ (Chain.mem_walk_self _) ⟨layer, rfl, rule⟩ before
    exact (ih (admits.inner within) memory
      (fun inner member => measured inner (Chain.mem_walk_wrap member))
      (admits.layers payload within)).weaken fun _ _ filled => payloadHas_wrap filled

/-- The text of a packet unfolds in steps of any kind that let it and the length of raw data be
remembered, if those of the headers do. -/
theorem text_unfolds (texts : packet.Admits step chain .text)
    (lengths : packet.Admits step chain .length) (before : Memory)
    (shown : ∀ inner : Packet, inner ∈ packet.walk → ∀ header, inner.header? = some header →
      ∀ memory, Unfolds step (header.text (inner.headerObject chain)) memory fun _ bank =>
        bank.isFilled ⟨inner.headerObject chain, .text⟩ = true) :
    Unfolds step (text chain packet) before
      fun _ bank => bank.isFilled ⟨packet.object chain, .text⟩ = true := by
  have lets := texts.layers packet packet.mem_walk_self
  induction packet generalizing before with
  | unknown data =>
    have counted : Unfolds step (length chain (.unknown data)) before
        fun _ bank => bank.isFilled ⟨object chain (.unknown data), .length⟩ = true :=
      length_unfolds lengths before fun inner member ⟨layer, outermost, _⟩ => by
        obtain rfl := List.mem_singleton.mp member
        cases outermost
    refine Access.remember_unfolds lets (counted.map fun _ _ filled cell => ?_)
    rintro (⟨-, rfl⟩ | ⟨headed, -⟩ | ⟨payload, present, -⟩)
    · exact filled
    · cases headed
    · cases present
  | bare layer =>
    refine Access.remember_unfolds lets ?_
    exact textAround_unfolds rfl texts.retains before
      (fun header present => shown _ (Chain.mem_walk_self _) header present before)
      fun memory => .pure (payloadHas_bare chain layer .text memory.bank)
  | wrap layer payload ih =>
    have within : payload ∈ Chain.walk (.wrap layer payload) :=
      Chain.mem_walk_wrap payload.mem_walk_self
    refine Access.remember_unfolds lets ?_
    refine textAround_unfolds rfl texts.retains before
      (fun header present => shown _ (Chain.mem_walk_self _) header present before) fun memory => ?_
    exact (ih (texts.inner within) (lengths.inner within) memory
      (fun inner member => shown inner (Chain.mem_walk_wrap member))
      (texts.layers payload within)).weaken fun _ _ filled => payloadHas_wrap filled

/-- What is worked out from the bytes of a packet is remembered. -/
theorem ofBytes_unfolds (follows : Follows book step) (booked : packet.Booked book chain)
    (view : View) (derived : view ≠ .bytes)
    (worked : packet.needs chain view = {⟨packet.object chain, .bytes⟩})
    (derive : Bytes → view.Value) (before : Memory) :
    Unfolds step
      (Access.remember (packet.object chain) view
        (readBytes chain packet >>= fun bytes => pure (derive bytes)))
      before fun _ bank => bank.isFilled ⟨packet.object chain, view⟩ = true := by
  refine Access.remember_unfolds (follows.derive_packet booked.self derived) ?_
  refine (readBytes_unfolds follows booked before).map fun _ bank had => ?_
  rw [worked]
  rintro cell rfl
  exact had.isFilled

/-- Every view of a packet in a book unfolds in steps that go by the book. -/
theorem read_unfolds (follows : Follows book step) (booked : packet.Booked book chain)
    (view : View) (before : Memory) :
    Unfolds step (read chain packet view) before
      fun _ bank => bank.isFilled ⟨packet.object chain, view⟩ = true := by
  have bytes := booked.bytes_unfold follows
  have lengths : packet.Admits step chain .length := follows.admits booked (by decide)
  cases view with
  | length => exact length_unfolds lengths before fun inner member _ => bytes inner member
  | bytes => exact bytes packet packet.mem_walk_self before
  | hex => exact ofBytes_unfolds follows booked .hex (by decide) rfl (Bytes.toHex " ") before
  | text =>
    exact text_unfolds (follows.admits booked (by decide)) lengths before
      fun inner member header present =>
        header.read_unfolds follows ((booked.inner member).header present) .text
  | hash => exact ofBytes_unfolds follows booked .hash (by decide) rfl Bytes.hash before

variable {otherChain : Nat}

/-- A comparison of the headers of two layers unfolds in steps that go by the book. -/
theorem headersEqual_unfolds {layer : Layer} {other : Packet} (follows : Follows book step)
    (outermost : packet.layer? = some layer) (booked : packet.Booked book chain)
    (otherBooked : other.Booked book otherChain) (before : Memory) :
    Unfolds step
      (layer.headersEqual (packet.headerObject chain) (other.headerObject otherChain) other.header?)
      before fun _ _ => True := by
  have own := header?_of_layer outermost
  unfold Layer.headersEqual
  cases present : layer.header? with
  | none => cases other.header? <;> exact .pure trivial
  | some header =>
    cases otherPresent : other.header? with
    | none => exact .pure trivial
    | some otherHeader =>
      exact Header.equals_unfolds follows (booked.header (own.trans present))
        (otherBooked.header otherPresent) before

/-- A comparison of a layer with a packet unfolds in steps that go by the book if that of the
payloads does. -/
theorem equalsAround_unfolds {layer : Layer} {other : Packet}
    {payloadEquals : Option Packet → Access Bool} (follows : Follows book step)
    (outermost : packet.layer? = some layer) (booked : packet.Booked book chain)
    (otherBooked : other.Booked book otherChain) (before : Memory)
    (inside : ∀ memory, Unfolds step (payloadEquals other.payload?) memory fun _ _ => True) :
    Unfolds step (layer.equalsAround chain packet.depth otherChain other payloadEquals) before
      fun _ _ => True := by
  unfold Layer.equalsAround
  by_cases same : Object.packet chain packet.depth = other.object otherChain
  · simp only [if_pos same]
    exact .pure trivial
  · simp only [if_neg same]
    by_cases refused : (!layer.kind.accepts other.kind) = true
    · simp only [if_pos refused]
      exact .pure trivial
    · simp only [if_neg refused]
      refine (headersEqual_unfolds follows outermost booked otherBooked before).bind
        fun equal middle _ _ => ?_
      cases equal with
      | false => exact .pure trivial
      | true => exact (inside middle).map fun _ _ _ => trivial

/-- A comparison of packets in a book unfolds in steps that go by the book. -/
theorem equals_unfolds {other : Packet} (follows : Follows book step)
    (booked : packet.Booked book chain) (otherBooked : other.Booked book otherChain)
    (before : Memory) :
    Unfolds step (equals chain otherChain packet other) before fun _ _ => True := by
  induction packet generalizing other before with
  | unknown data =>
    unfold equals
    by_cases refused : (!Kind.unknown.accepts other.kind) = true
    · simp only [if_pos refused]
      exact .pure trivial
    · simp only [if_neg refused]
      exact (readBytes_unfolds follows booked before).bind fun _ middle _ _ =>
        (readBytes_unfolds follows otherBooked middle).map fun _ _ _ => trivial
  | bare layer =>
    refine equalsAround_unfolds follows rfl booked otherBooked before fun memory => ?_
    cases other.payload? <;> exact .pure trivial
  | wrap layer payload ih =>
    refine equalsAround_unfolds follows rfl booked otherBooked before fun memory => ?_
    cases other with
    | unknown data => exact .pure trivial
    | bare otherLayer => exact .pure trivial
    | wrap otherLayer otherPayload => exact ih booked.payload otherBooked.payload memory

end Packet

end Encapsulation
