import Encapsulation.Proofs.Workbench.Moment

/-!
# What is remembered together

Whatever a bench remembers was worked out from other things, and it remembers these as well. This
holds after any run, at every layer and every header and copy of one: accesses fill a cell after those
that it is worked out from, also where they fail in the end; comparisons and builds ask for things in
the same way; and a copy starts with all that its header remembers.
-/
namespace Encapsulation

/-- The views that a view of a header is worked out from are those of the same header, and a copy of
the header has them as well. -/
theorem Header.needs_of_copy {header : Header} {view : View} {target : Object} (source : Object)
    {cell : Cell} (member : cell ∈ header.needs target view) :
    cell.object = target ∧ ⟨source, cell.view⟩ ∈ header.needs source view := by
  cases view with
  | length | bytes => exact member.elim
  | hex | hash =>
    obtain rfl := member
    exact ⟨rfl, rfl⟩
  | text =>
    cases header with
    | ethernet fields | llcSnap fields | udp fields =>
      obtain rfl := member
      exact ⟨rfl, rfl⟩
    | custom fields =>
      obtain ⟨plain, rfl⟩ := member
      exact ⟨rfl, plain, rfl⟩

namespace Workbench

variable {bench after : Workbench}

/-- Whatever a bench remembers, it remembers what that was worked out from. -/
def Closed (bench : Workbench) : Prop := bench.memory.bank.Closed (Book.needs bench.itemAt?)

/-- A new copy leaves what stands behind other objects as it is. -/
theorem itemAt?_push_copy (bench : Workbench) (memory : Memory) (header : Header) {object : Object}
    (other : object ≠ .copy bench.copies.size) :
    itemAt? { bench with memory, copies := bench.copies.push header } object =
      bench.itemAt? object := by
  cases object with
  | packet chain depth => rfl
  | header chain depth => rfl
  | copy serial =>
    have distinct : serial ≠ bench.copies.size := fun same => other (congrArg Object.copy same)
    simp only [itemAt?, headerAt?, Array.getElem?_push, if_neg distinct]

/-- A new chain leaves what stands behind objects outside it as it is. -/
theorem itemAt?_push_chain (bench : Workbench) (entry : Option Packet) {object : Object}
    (other : object.chain? ≠ some bench.chains.size) :
    itemAt? { bench with chains := bench.chains.push entry } object = bench.itemAt? object := by
  have packets : ∀ chain depth, chain ≠ bench.chains.size →
      packetAt? { bench with chains := bench.chains.push entry } chain depth =
        bench.packetAt? chain depth := by
    intro chain depth distinct
    simp only [packetAt?, Array.getElem?_push, if_neg distinct]
  cases object with
  | packet chain depth =>
    have distinct : chain ≠ bench.chains.size := fun same => other (congrArg some same)
    simp only [itemAt?, packets chain depth distinct]
  | header chain depth =>
    have distinct : chain ≠ bench.chains.size := fun same => other (congrArg some same)
    simp only [itemAt?, headerAt?, packets chain depth distinct]
  | copy serial => rfl

/-- A cell that a sound bench has filled is of an object whose number has been given out. -/
theorem Sound.issued_of_filled (sound : bench.Sound) {cell : Cell}
    (full : bench.memory.bank.isFilled cell = true) : bench.Issued cell.object := by
  by_contra missing
  rw [Memo.Bank.isFilled, sound.fresh cell missing] at full
  cases full

/-- A sound bench that is closed is closed with a chain more, of which no cell is filled. -/
theorem Closed.push_chain (closed : bench.Closed) (sound : bench.Sound) (entry : Option Packet) :
    Closed { bench with chains := bench.chains.push entry } := by
  intro cell full needed member
  have other : cell.object.chain? ≠ some bench.chains.size :=
    fun new => not_issued_of_next new (sound.issued_of_filled full)
  unfold Book.needs at member
  rw [itemAt?_push_chain bench entry other] at member
  exact closed cell full needed member

/-- A closed bench that only remembers more by its book, each thing after what it is worked out from,
is closed. -/
theorem Closed.ripen {memory : Memory} (closed : bench.Closed)
    (steps : Relation.ReflTransGen (Memo.State.Ripens (Book.needs bench.itemAt?) Set.univ)
      bench.memory memory) :
    Closed { bench with memory } :=
  Memo.State.Ripens.closed_many steps closed

/-- A bench with fewer things on it is closed if what it remembers is closed by a book of more. -/
theorem Closed.of_listed {ledger : Workbench} (closed : ledger.Closed) (listed : bench.Listed ledger)
    (same : bench.memory = ledger.memory) : bench.Closed := by
  unfold Closed
  rw [same]
  exact Memo.Bank.Closed.anti closed fun cell => Book.needs_mono listed.itemAt? cell

/-- A copy of a header leaves a closed bench closed: it starts with what the header remembers, and
with what that was worked out from. -/
theorem Closed.duplicate (closed : bench.Closed) (sound : bench.Sound) {object : Object}
    {header : Header} (known : bench.headerAt? object = some header) :
    (bench.after (duplicate object header)).Closed := by
  have distinct : object ≠ .copy bench.copies.size :=
    fun same => not_issued_of_next_copy same (issued_of_headerAt? known)
  have starts : ∀ view,
      (copyCells object (.copy bench.copies.size) bench.memory.bank).isFilled
          ⟨.copy bench.copies.size, view⟩ = bench.memory.bank.isFilled ⟨object, view⟩ :=
    fun view => congrArg Option.isSome (get?_copyCells_self distinct bench.memory.bank view)
  have others : ∀ cell : Cell, cell.object ≠ .copy bench.copies.size →
      (copyCells object (.copy bench.copies.size) bench.memory.bank).isFilled cell =
        bench.memory.bank.isFilled cell :=
    fun cell other => congrArg Option.isSome (get?_copyCells_of_ne bench.memory.bank other)
  rw [after_duplicate]
  intro cell full needed member
  by_cases new : cell.object = .copy bench.copies.size
  · obtain ⟨_, view⟩ := cell
    obtain rfl : _ = Object.copy bench.copies.size := new
    have booked : itemAt?
        { bench with
          memory :=
            { bench.memory with
              bank := copyCells object (.copy bench.copies.size) bench.memory.bank }
          copies := bench.copies.push header } (.copy bench.copies.size) =
        some (.header header) := itemAt?_of_headerAt? Array.getElem?_push_size
    rw [Book.needs_of_header booked] at member
    obtain ⟨own, source⟩ := Header.needs_of_copy object member
    rw [← Book.needs_of_header (itemAt?_of_headerAt? known)] at source
    have had := closed ⟨object, view⟩ ((starts view).symm.trans full) _ source
    obtain ⟨_, shown⟩ := needed
    obtain rfl : _ = Object.copy bench.copies.size := own
    exact (starts shown).trans had
  · unfold Book.needs at member
    rw [itemAt?_push_copy bench _ header new] at member
    have had := closed cell ((others cell new).symm.trans full) needed member
    have old : needed.object ≠ .copy bench.copies.size :=
      fun same => not_issued_of_next_copy same (sound.issued_of_filled had)
    exact (others needed old).trans had

/-- A build leaves a closed bench closed: it asks new packets for lengths. -/
theorem Closed.build (closed : bench.Closed) (sound : bench.Sound) (builder : Builder) :
    (bench.after (build builder)).Closed := by
  -- A failed build leaves no packet behind, but what it asked for goes by the packet it would make.
  let ledger : Workbench := { bench with chains := bench.chains.push (some builder.plainBuild) }
  have held : ledger.Holds ⟨bench.chains.size, builder.plainBuild⟩ :=
    ⟨builder.plainBuild, Array.getElem?_push_size, Chain.mem_walk_self _⟩
  have follows := ripens_follows ledger.itemAt?
  have steps := builder.steps_build (fun memory event _ => .log memory _)
    (denoted_push_chain bench builder.plainBuild)
    (fun draft payload member _ => builder.asked_unfold follows held.booked draft payload member)
    (fun _ _ => sound.fresh _ (not_issued_of_next rfl)) (sound.coherent_push_chain _)
  have ripe := (closed.push_chain sound (some builder.plainBuild)).ripen steps
  obtain ⟨entry, made, left⟩ := sound.after_build builder
  rw [left]
  refine ripe.of_listed ⟨fun number root known => ?_, fun _ _ known => known⟩ rfl
  rw [Array.getElem?_push] at known ⊢
  by_cases last : number = bench.chains.size
  · rw [if_pos last] at known ⊢
    rw [made root (Option.some.inj known)]
  · rw [if_neg last] at known ⊢
    exact known

/-- Whatever an effect on a closed bench is, the bench is closed afterwards. -/
theorem Closed.effect (closed : bench.Closed) (sound : bench.Sound) (effect : Effect bench after) :
    after.Closed := by
  have follows := ripens_follows bench.itemAt?
  have accessed : ∀ {α : Type} {action : Access α}
      {known : α → Memo.Bank Cell Cell.Value → Prop},
      Memo.Eval.Unfolds (Memo.State.Ripens (Book.needs bench.itemAt?) Set.univ) action
        bench.memory known → (bench.after (access action)).Closed := by
    intro α action known unfolds
    obtain ⟨memory, left, steps⟩ := steps_access unfolds
    rw [left]
    exact closed.ripen steps
  cases effect with
  | idle => exact closed
  | read target view held =>
    exact accessed (Packet.read_unfolds follows held.booked view bench.memory)
  | readHeader object fields view known =>
    exact accessed (fields.read_unfolds follows (itemAt?_of_headerAt? known) view bench.memory)
  | equals left right held otherHeld =>
    exact accessed (Packet.equals_unfolds follows held.booked otherHeld.booked bench.memory)
  | headersEqual object otherObject fields other known otherKnown =>
    exact accessed (Header.equals_unfolds follows (itemAt?_of_headerAt? known)
      (itemAt?_of_headerAt? otherKnown) bench.memory)
  | duplicate object fields known => exact closed.duplicate sound known
  | build builder => exact closed.build sound builder

/-- A bench of any packets and copies that remembers nothing is closed. -/
theorem closed_start (chains : Array (Option Packet)) (copies : Array Header) :
    Closed ⟨.initial, chains, copies⟩ := by
  intro cell full
  have vacant : (Memo.State.initial : Memory).bank.get? cell = none := Memo.Bank.get?_empty cell
  rw [Memo.Bank.isFilled, vacant] at full
  cases full

/-- A run on a closed bench leaves a closed bench. -/
theorem Closed.run (closed : bench.Closed) (sound : bench.Sound) (operations : List Operation) :
    (bench.run operations).Closed := by
  induction operations generalizing bench with
  | nil => exact closed
  | cons operation rest ih =>
    have next := (leads_perform sound operation).sound
    exact ih (closed.effect sound (effect_perform bench operation)) next

/-- A bench remembers a view of an object. -/
def Has (bench : Workbench) (object : Object) (view : View) : Prop :=
  bench.memory.bank.isFilled ⟨object, view⟩ = true

/-- A bench remembers a view of the header and of the payload of a packet, as far as there are. -/
structure HasParts (bench : Workbench) (target : Located) (view : View) : Prop where
  /-- The view of the header. -/
  header : target.packet.header?.isSome = true →
    bench.Has (target.packet.headerObject target.chain) view
  /-- The view of the payload. -/
  payload : ∀ payload : Packet, target.packet.payload? = some payload →
    bench.Has (payload.object target.chain) view

/-- What a bench remembers of a packet beside the views that were asked for. -/
structure PacketClosed (bench : Workbench) (target : Located) : Prop where
  /-- The hexadecimal form and the hash are worked out from the bytes. -/
  bytes : ∀ view ∈ [View.hex, View.hash], bench.Has (target.packet.object target.chain) view →
    bench.Has (target.packet.object target.chain) .bytes
  /-- Bytes that no others stand in place of are put together from those of header and payload. -/
  composedBytes : target.packet.Composes → bench.Has (target.packet.object target.chain) .bytes →
    bench.HasParts target .bytes
  /-- A length that is a sum is that of the lengths of header and payload. -/
  composedLength : target.packet.HasRule .composed →
    bench.Has (target.packet.object target.chain) .length → bench.HasParts target .length
  /-- A length that is measured is the number of the bytes. -/
  measuredLength : target.packet.HasRule .measured →
    bench.Has (target.packet.object target.chain) .length →
      bench.Has (target.packet.object target.chain) .bytes
  /-- The text is put together from those of header and payload. -/
  text : bench.Has (target.packet.object target.chain) .text → bench.HasParts target .text
  /-- The text of raw data tells its length. -/
  data : target.packet.data?.isSome = true →
    bench.Has (target.packet.object target.chain) .text →
      bench.Has (target.packet.object target.chain) .length

/-- What a bench remembers of a header beside the views that were asked for. -/
structure HeaderClosed (bench : Workbench) (object : Object) (header : Header) : Prop where
  /-- The hexadecimal form and the hash are worked out from the bytes. -/
  bytes : ∀ view ∈ [View.hex, View.hash], bench.Has object view → bench.Has object .bytes
  /-- The text of a header of the library tells its length. -/
  length : (∀ fields, header ≠ .custom fields) → bench.Has object .text → bench.Has object .length
  /-- The text of a caller's header that has no text of its own is the hexadecimal form. -/
  hex : ∀ fields, header = .custom fields → fields.text = none →
    bench.Has object .text → bench.Has object .hex

/-- A view of the parts of a packet is remembered if its cells are filled. -/
theorem hasParts_of_forall {target : Located} {view : View}
    (had : ∀ cell ∈ target.packet.parts target.chain view,
      bench.memory.bank.isFilled cell = true) : bench.HasParts target view :=
  ⟨fun headed => had _ (.inl ⟨headed, rfl⟩), fun payload present => had _ (.inr ⟨payload, present, rfl⟩)⟩

/-- A closed bench remembers what the views of a packet were worked out from. -/
theorem Closed.packet (closed : bench.Closed) {target : Located} (held : bench.Holds target) :
    bench.PacketClosed target := by
  have had : ∀ {view : View}, bench.Has (target.packet.object target.chain) view →
      ∀ cell ∈ target.packet.needs target.chain view, bench.memory.bank.isFilled cell = true := by
    intro view full cell member
    exact closed _ full cell (by rwa [Book.needs_of_packet held.booked.self])
  refine ⟨fun view member full => ?_, fun composes full => hasParts_of_forall fun cell member => ?_,
    fun rule full => hasParts_of_forall fun cell member => ?_, fun rule full => ?_,
    fun full => hasParts_of_forall fun cell member => ?_, fun raw full => ?_⟩
  · simp only [List.mem_cons, List.not_mem_nil, or_false] at member
    rcases member with rfl | rfl <;> exact had full _ rfl
  · exact had full cell ⟨composes, member⟩
  · exact had full cell (.inl ⟨rule, member⟩)
  · exact had full _ (.inr ⟨rule, rfl⟩)
  · exact had full cell (.inr member)
  · exact had full _ (.inl ⟨raw, rfl⟩)

/-- A closed bench remembers what the views of a header were worked out from. -/
theorem Closed.header (closed : bench.Closed) {object : Object} {header : Header}
    (known : bench.headerAt? object = some header) : bench.HeaderClosed object header := by
  have had : ∀ {view : View}, bench.Has object view →
      ∀ cell ∈ header.needs object view, bench.memory.bank.isFilled cell = true := by
    intro view full cell member
    exact closed _ full cell (by rwa [Book.needs_of_header (itemAt?_of_headerAt? known)])
  refine ⟨fun view member full => ?_, fun library full => ?_, fun fields own plain full => ?_⟩
  · simp only [List.mem_cons, List.not_mem_nil, or_false] at member
    rcases member with rfl | rfl <;> exact had full _ rfl
  · cases header with
    | custom fields => exact absurd rfl (library fields)
    | _ => exact had full _ rfl
  · subst own
    exact had full _ ⟨plain, rfl⟩

/-- From a store of any packets and copies of headers of which nothing is remembered, after a run of
any operations, failed ones included: whatever is remembered of a layer, of its header or of a copy
of a header, what it was worked out from is remembered too. -/
theorem filled_cells_are_closed (chains : Array (Option Packet)) (copies : Array Header)
    (history : List Operation) :
    let bench := run ⟨.initial, chains, copies⟩ history
    (∀ target, bench.Holds target → bench.PacketClosed target) ∧
      ∀ object header, bench.headerAt? object = some header → bench.HeaderClosed object header := by
  intro bench
  have closed : bench.Closed :=
    (closed_start chains copies).run (sound_start chains copies) history
  exact ⟨fun _ held => closed.packet held, fun _ _ known => closed.header known⟩

/-- A bench with a datagram around a layer of one byte whose caller says that it has two. -/
def shortBench : Workbench :=
  ⟨.initial, #[some (.wrap (.udp ⟨⟨1⟩, ⟨2⟩, 10, 0⟩)
    (.wrap (.custom ⟨.root "Short" (.custom "short"), none, none, .fixed 2⟩) (.unknown [1])))], #[]⟩

/-- The text of the datagram leaves behind the length of its header and that of its data. Its hash
fails at the layer inside, and leaves behind the bytes of that layer and of the data. -/
theorem short_datagram_is_closed :
    let bench := shortBench.run [.read 0 0 .text, .read 0 1 .length, .read 0 0 .hash]
    bench.Has (.packet 0 3) .text ∧ bench.Has (.header 0 3) .text ∧
      bench.Has (.header 0 3) .length ∧ bench.Has (.packet 0 1) .text ∧
      bench.Has (.packet 0 1) .length ∧ bench.Has (.packet 0 2) .bytes ∧
      bench.Has (.packet 0 1) .bytes ∧ ¬ bench.Has (.packet 0 3) .hash := by
  intro bench
  let data : Packet := .unknown [1]
  let layer : Packet := .wrap (.custom ⟨.root "Short" (.custom "short"), none, none, .fixed 2⟩) data
  let datagram : Packet := .wrap (.udp ⟨⟨1⟩, ⟨2⟩, 10, 0⟩) layer
  obtain ⟨packets, headers⟩ := filled_cells_are_closed shortBench.chains shortBench.copies
    [.read 0 0 .text, .read 0 1 .length, .read 0 0 .hash]
  have held : bench.Holds ⟨0, datagram⟩ := ⟨datagram, rfl, Chain.mem_walk_self _⟩
  have layerHeld : bench.Holds ⟨0, layer⟩ :=
    ⟨datagram, rfl, Chain.mem_walk_wrap (Chain.mem_walk_self _)⟩
  have dataHeld : bench.Holds ⟨0, data⟩ :=
    ⟨datagram, rfl, Chain.mem_walk_wrap (Chain.mem_walk_wrap (Chain.mem_walk_self _))⟩
  have shown : bench.Has (.packet 0 3) .text := rfl
  have built : bench.Has (.packet 0 2) .bytes := rfl
  have parts := (packets ⟨0, datagram⟩ held).text shown
  have header : bench.Has (.header 0 3) .text := parts.header rfl
  have inside : bench.Has (.packet 0 2) .text := parts.payload layer rfl
  have last : bench.Has (.packet 0 1) .text :=
    ((packets ⟨0, layer⟩ layerHeld).text inside).payload data rfl
  refine ⟨shown, header, ?_, last, (packets ⟨0, data⟩ dataHeld).data rfl last, built, ?_,
    fun hashed => Bool.noConfusion hashed⟩
  · exact (headers (.header 0 3) (.udp ⟨⟨1⟩, ⟨2⟩, 10, 0⟩) rfl).length (fun _ own => by cases own) header
  · exact ((packets ⟨0, layer⟩ layerHeld).composedBytes ⟨_, rfl, rfl⟩ built).payload data rfl

end Workbench

end Encapsulation
