import Encapsulation.Proofs.Bytes.Hex
import Encapsulation.Proofs.Workbench.Closure
import Encapsulation.Proofs.Workbench.Shown

/-!
# Hexadecimal forms on a bench

The hexadecimal form that a packet or a header shows can be read back into its bytes, so two packets,
or two headers, that show the same form have the same bytes. For a packet this does not take that its
bytes can still be had: they may go on to fail once a length of another number is remembered, but the
form was worked out from bytes that are remembered and never change.
-/
namespace Encapsulation.Workbench

variable {bench reached : Workbench} {left right target : Located}
  {object otherObject : Object} {header other : Header}

/-- A bench remembers some bytes of a packet, and the packet never returns other ones. -/
structure Pins (bench : Workbench) (target : Located) (bytes : Bytes) : Prop where
  /-- The bytes are remembered. -/
  remembered : bench.memory.bank.get? ⟨target.packet.object target.chain, .bytes⟩ = some bytes
  /-- What is returned as the bytes, after whatever is done, are these. -/
  returned : ∀ (later : List Operation) (again : Bytes) (final : Workbench),
    read target .bytes (bench.run later) = .ok again final → again = bytes

/-- If two packets return one hexadecimal form at any moments, the bytes that are read out of it are
those of both. -/
def HexTellsBytes (bench : Workbench) (left right : Located) : Prop :=
  ∀ (later otherLater : List Operation) (text : String) (reached elsewhere : Workbench),
    read left .hex (bench.run later) = .ok text reached →
      read right .hex (bench.run otherLater) = .ok text elsewhere →
        ∃ bytes, Bytes.ofHex 1 text = some bytes ∧ reached.Pins left bytes ∧
          elsewhere.Pins right bytes

/-- A view of a header on a bench, or of a copy, returns a value, whatever is done before. -/
def Gives (bench : Workbench) (object : Object) (header : Header) (view : View)
    (value : view.Value) : Prop :=
  ∀ later : List Operation, ∃ final,
    access (header.read object view) (bench.run later) = .ok value final

/-- If two headers return one hexadecimal form at any moments, the bytes that are read out of it are
those of both. -/
def HeaderHexTellsBytes (bench : Workbench) (object : Object) (header : Header)
    (otherObject : Object) (other : Header) : Prop :=
  ∀ (later otherLater : List Operation) (text : String) (reached elsewhere : Workbench),
    access (header.read object .hex) (bench.run later) = .ok text reached →
      access (other.read otherObject .hex) (bench.run otherLater) = .ok text elsewhere →
        ∃ bytes, Bytes.ofHex 1 text = some bytes ∧ bench.Gives object header .bytes bytes ∧
          bench.Gives otherObject other .bytes bytes

/-- A header on a sound bench gives the meaning of every view. -/
theorem Sound.gives (sound : bench.Sound) (known : bench.headerAt? object = some header)
    (view : View) : bench.Gives object header view (header.meaning view) := by
  intro later
  obtain ⟨change, kept⟩ := run_leads sound later
  exact kept.header_returns (change.listed.headerAt? known) view

/-- A packet on a sound and closed bench that returns its hexadecimal form is left with its bytes
remembered: the form has been worked out from them, now or before. -/
theorem Sound.pins_of_hex {text : String} (sound : bench.Sound) (closed : bench.Closed)
    (held : bench.Holds target) (returned : read target .hex bench = .ok text reached) :
    reached.Pins target target.packet.plainBytes := by
  have left : bench.after (read target .hex) = reached := by rw [after, returned]
  obtain ⟨change, kept⟩ := leads_read sound held .hex
  have stillClosed := closed.effect sound (.read target .hex held)
  rw [left] at change kept stillClosed
  have stillHeld : reached.Holds target := change.holds held
  have unfolds := target.packet.read_unfolds (ripens_follows bench.itemAt?) held.booked .hex
    bench.memory
  obtain ⟨-, -, shown⟩ := unfolds.of_eq_ok (access_eq_ok returned)
  have built : reached.Has (target.packet.object target.chain) .bytes :=
    (stillClosed.packet stillHeld).bytes .hex (by decide) shown
  obtain ⟨bytes, content⟩ := Option.isSome_iff_exists.mp built
  obtain rfl : bytes = target.packet.plainBytes :=
    kept.faithful.packets target stillHeld .bytes bytes content
  exact ⟨content, fun later again final => kept.eq_meaning stillHeld later⟩

/-- The bytes that are read out of the hexadecimal form of a packet on a sound and closed bench are
those of the packet, at whatever moment it returned the form. -/
theorem Sound.exists_pins_of_hex {text : String} {later : List Operation} (sound : bench.Sound)
    (closed : bench.Closed) (held : bench.Holds target)
    (returned : read target .hex (bench.run later) = .ok text reached) :
    ∃ bytes, Bytes.ofHex 1 text = some bytes ∧ reached.Pins target bytes := by
  obtain ⟨change, kept⟩ := run_leads sound later
  have meant : text = Bytes.toHex " " target.packet.plainBytes :=
    sound.eq_meaning held later returned
  have pins := kept.pins_of_hex (closed.run sound later) (change.holds held) returned
  exact ⟨_, meant ▸ Bytes.ofHex_toHex " " _, pins⟩

/-- The bytes that are read out of the hexadecimal form of a header on a sound bench are those of the
header, at whatever moment it returned the form. -/
theorem Sound.exists_gives_of_hex {text : String} {later : List Operation} (sound : bench.Sound)
    (known : bench.headerAt? object = some header)
    (returned : access (header.read object .hex) (bench.run later) = .ok text reached) :
    ∃ bytes, Bytes.ofHex 1 text = some bytes ∧ bench.Gives object header .bytes bytes := by
  obtain ⟨final, shown⟩ := sound.gives known .hex later
  have meant : text = Bytes.toHex ":" header.bytes :=
    (EStateM.Result.ok.inj (returned.symm.trans shown)).1
  exact ⟨_, meant ▸ Bytes.ofHex_toHex ":" _, sound.gives known .bytes⟩

/-- Packets on a sound and closed bench have the bytes that their hexadecimal forms tell. -/
theorem Sound.hexTellsBytes (sound : bench.Sound) (closed : bench.Closed) (held : bench.Holds left)
    (otherHeld : bench.Holds right) : bench.HexTellsBytes left right := by
  intro later otherLater text reached elsewhere returned otherReturned
  obtain ⟨bytes, told, pins⟩ := sound.exists_pins_of_hex closed held returned
  obtain ⟨others, retold, otherPins⟩ := sound.exists_pins_of_hex closed otherHeld otherReturned
  -- Both are read out of one text, so they do not depend on the packet that returned it.
  obtain rfl : bytes = others := Option.some.inj (told.symm.trans retold)
  exact ⟨bytes, told, pins, otherPins⟩

/-- Headers on a sound bench have the bytes that their hexadecimal forms tell. -/
theorem Sound.headerHexTellsBytes (sound : bench.Sound) (known : bench.headerAt? object = some header)
    (otherKnown : bench.headerAt? otherObject = some other) :
    bench.HeaderHexTellsBytes object header otherObject other := by
  intro later otherLater text reached elsewhere returned otherReturned
  obtain ⟨bytes, told, gives⟩ := sound.exists_gives_of_hex known returned
  obtain ⟨others, retold, otherGives⟩ := sound.exists_gives_of_hex otherKnown otherReturned
  obtain rfl : bytes = others := Option.some.inj (told.symm.trans retold)
  exact ⟨bytes, told, gives, otherGives⟩

/-- The hexadecimal text of any bytes, with any separator, is read back at a stride of two digits and
the length of the separator; it has two digits for each byte and a separator before each byte but the
first; it tells the bytes; and that of two byte strings that have bytes is that of the first, the
separator and that of the second. So, from a store of any packets and copies of headers and after any
run: every regular packet and every header shows its bytes and their hexadecimal text, and any two
packets that return the same text, and any two headers that do, have the same bytes. -/
theorem hexadecimal_forms_are_reversible (chains : Array (Option Packet)) (copies : Array Header)
    (history : List Operation) :
    let bench := run ⟨.initial, chains, copies⟩ history
    (∀ (separator : String) (bytes : Bytes),
      Bytes.ofHex separator.length (Bytes.toHex separator bytes) = some bytes ∧
        (Bytes.toHex separator bytes).length =
          2 * bytes.length + (bytes.length - 1) * separator.length ∧
        ∀ other : Bytes,
          (Bytes.toHex separator bytes = Bytes.toHex separator other → bytes = other) ∧
            (bytes ≠ [] → other ≠ [] → Bytes.toHex separator (bytes ++ other) =
              Bytes.toHex separator bytes ++ separator ++ Bytes.toHex separator other)) ∧
      (∀ target, bench.Holds target →
        (target.packet.Regular → ∃ bytes, bench.Shows target .bytes bytes ∧
            bench.Shows target .hex (Bytes.toHex " " bytes)) ∧
          ∀ other, bench.Holds other → bench.HexTellsBytes target other) ∧
      ∀ object header, bench.headerAt? object = some header →
        (∃ bytes, bench.Gives object header .bytes bytes ∧
            bench.Gives object header .hex (Bytes.toHex ":" bytes)) ∧
          ∀ otherObject other, bench.headerAt? otherObject = some other →
            bench.HeaderHexTellsBytes object header otherObject other := by
  intro bench
  have started : Sound ⟨.initial, chains, copies⟩ := sound_start chains copies
  obtain ⟨-, sound⟩ := run_leads started history
  have closed : bench.Closed := (closed_start chains copies).run started history
  refine ⟨fun separator bytes => ?_, fun target held => ⟨fun regular => ?_, fun other => ?_⟩,
    fun object header known => ⟨?_, fun otherObject other => ?_⟩⟩
  · refine ⟨Bytes.ofHex_toHex separator bytes, Bytes.length_toHex separator bytes, ?_⟩
    exact fun other => ⟨Bytes.toHex_inj, Bytes.toHex_append separator⟩
  · have shows : ∀ view, view ≠ .length → bench.Shows target view (target.packet.meaning view) :=
      fun view derived => sound.shows held fun bank =>
        regular.ready_of_ne_length target.chain bank derived
    exact ⟨_, shows .bytes (by decide), shows .hex (by decide)⟩
  · exact sound.hexTellsBytes closed held
  · exact ⟨_, sound.gives known .bytes, sound.gives known .hex⟩
  · exact sound.headerHexTellsBytes known

/-- A header of a caller with three bytes in one field. -/
def wholeHeader : Header := .custom ⟨.root "Whole" (.custom "whole"), [[0, 1, 10]], none⟩

/-- A header of a caller of another kind with the same bytes in more fields. -/
def splitHeader : Header := .custom ⟨.root "Split" (.custom "split"), [[0], [], [1, 10]], none⟩

/-- A bench with a layer whose length is given as nine, raw data with its bytes, and copies of the
two headers. -/
def formBench : Workbench :=
  ⟨.initial, #[some mismatched, some (.unknown [1, 2])], #[wholeHeader, splitHeader]⟩

/-- A separator may be made of digits. The layer and the raw data return one hexadecimal form, so the
bytes of both are those of the data, although those of the layer fail once its length was asked for.
The headers give one hexadecimal form, so they give the same bytes. -/
theorem mismatched_layer_has_bytes_of_data :
    let layer : Located := ⟨0, mismatched⟩
    let data : Located := ⟨1, .unknown [1, 2]⟩
    let bench := formBench.run [.read 1 0 .text]
    Bytes.toHex "00" [1, 2, 3] = Bytes.toHex "00" [1, 2] ++ "00" ++ Bytes.toHex "00" [3] ∧
      (bench.Holds layer ∧ bench.Holds data ∧ data.packet.Regular) ∧
      (∃ bytes, bench.Shows data .bytes bytes ∧ bench.Shows data .hex (Bytes.toHex " " bytes)) ∧
      (∃ text reached elsewhere bytes, read layer .hex bench = .ok text reached ∧
        read data .hex (bench.run [.read 0 0 .length]) = .ok text elsewhere ∧
        reached.Pins layer bytes ∧ elsewhere.Pins data bytes ∧
        ∃ fault final, read layer .bytes (reached.run [.read 0 0 .length]) =
          .error (.faulted fault) final) ∧
      ∃ bytes, bench.Gives (.copy 0) wholeHeader .bytes bytes ∧
        bench.Gives (.copy 1) splitHeader .bytes bytes := by
  intro layer data bench
  obtain ⟨laws, packets, headers⟩ :=
    hexadecimal_forms_are_reversible formBench.chains formBench.copies [.read 1 0 .text]
  have held : bench.Holds layer := ⟨mismatched, rfl, Chain.mem_walk_self _⟩
  have otherHeld : bench.Holds data := ⟨.unknown [1, 2], rfl, Chain.mem_walk_self _⟩
  have regular : data.packet.Regular := trivial
  have joined := ((laws "00" [1, 2]).2.2 [3]).2 (by decide) (by decide)
  let text := Bytes.toHex " " [1, 2]
  have shown : read layer .hex bench = .ok text (bench.run [.read 0 0 .hex]) := rfl
  have otherShown : read data .hex (bench.run [.read 0 0 .length]) =
      .ok text (bench.run [.read 0 0 .length, .read 1 0 .hex]) := rfl
  have fails : ∃ fault final,
      read layer .bytes ((bench.run [.read 0 0 .hex]).run [.read 0 0 .length]) =
        .error (.faulted fault) final := ⟨_, _, rfl⟩
  obtain ⟨bytes, -, pins, otherPins⟩ :=
    (packets layer held).2 data otherHeld [] _ text _ _ shown otherShown
  have known : bench.headerAt? (.copy 0) = some wholeHeader := rfl
  have otherKnown : bench.headerAt? (.copy 1) = some splitHeader := rfl
  have given : access (wholeHeader.read (.copy 0) .hex) bench =
      .ok (Bytes.toHex ":" [0, 1, 10]) (bench.run [.readCopy 0 .hex]) := rfl
  have otherGiven : access (splitHeader.read (.copy 1) .hex) bench =
      .ok (Bytes.toHex ":" [0, 1, 10]) (bench.run [.readCopy 1 .hex]) := rfl
  obtain ⟨field, -, gives, otherGives⟩ :=
    (headers (.copy 0) wholeHeader known).2 (.copy 1) splitHeader otherKnown [] [] _ _ _ given
      otherGiven
  exact ⟨joined, ⟨held, otherHeld, regular⟩, (packets data otherHeld).1 regular,
    ⟨text, _, _, bytes, shown, otherShown, pins, otherPins, fails⟩,
    field, gives, otherGives⟩

end Encapsulation.Workbench
