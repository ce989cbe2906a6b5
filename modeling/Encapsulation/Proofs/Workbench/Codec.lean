import Encapsulation.Proofs.Header.Layout
import Encapsulation.Proofs.Workbench.Coherence

/-!
# Header bytes on a bench

The headers on a bench are those of layers and the copies made of them, and each remembers its own
bytes. The bytes that are returned are always those of the layout, and comparisons look at nothing
but the kinds and the bytes, whatever the fields are and whatever is remembered.
-/
namespace Encapsulation.Workbench

variable {bench : Workbench} {object otherObject : Object} {header other : Header}

/-- The bytes of a header on a bench are returned, have the size of a layout, and carry the numbers
of the header at the places of the layout. -/
def Encodes (bench : Workbench) (object : Object) (header : Header) (layout : Layout) : Prop :=
  ∃ bytes reached, access (header.read object .bytes) bench = .ok bytes reached ∧
    bytes.length = layout.size ∧ layout.places.map (Bytes.numberAt bytes) = header.numbers

/-- A comparison of two headers on a bench returns a verdict. -/
def JudgesHeaders (bench : Workbench) (object : Object) (header : Header) (otherObject : Object)
    (other : Header) (verdict : Bool) : Prop :=
  ∃ reached, access (header.equals object otherObject other) bench = .ok verdict reached

/-- Every header on a sound bench that has a layout is encoded by it. -/
theorem Sound.encodes {layout : Layout} (sound : bench.Sound)
    (held : bench.headerAt? object = some header) (known : header.layout? = some layout) :
    bench.Encodes object header layout := by
  obtain ⟨reached, returned⟩ := sound.header_returns held .bytes
  exact ⟨header.bytes, reached, returned, Header.read_back known⟩

/-- From a store of any packets and copies and after any run: the bytes of every header of the
library have a fixed size, and each number that the header carries is read back from its fixed
place; a comparison of any two headers looks at their fields only as put one after another, and at
their kinds only for whether the first accepts the second; and two headers of one kind of the
library are equal if and only if they carry the same numbers. -/
theorem headers_encode_numbers (chains : Array (Option Packet)) (copies : Array Header)
    (history : List Operation) :
    let bench := run ⟨.initial, chains, copies⟩ history
    (∀ object header, bench.headerAt? object = some header →
      ∀ layout, header.layout? = some layout → bench.Encodes object header layout) ∧
      ∀ object header otherObject other, bench.headerAt? object = some header →
        bench.headerAt? otherObject = some other →
          bench.JudgesHeaders object header otherObject other
            (header.kind.accepts other.kind && header.fields.flatten == other.fields.flatten) ∧
          (header.Akin other →
            bench.JudgesHeaders object header otherObject other
              (decide (header.numbers = other.numbers))) := by
  intro bench
  obtain ⟨-, sound⟩ := run_leads (sound_start chains copies) history
  refine ⟨fun object header held layout known => sound.encodes held known, ?_⟩
  intro object header otherObject other held otherHeld
  have judged : bench.JudgesHeaders object header otherObject other (header.plainEquals other) :=
    sound.header_equals_returns held otherHeld
  refine ⟨judged, fun akin => ?_⟩
  have verdict : header.plainEquals other = decide (header.numbers = other.numbers) := by
    rw [Bool.eq_iff_iff, decide_eq_true_iff, akin.plainEquals_iff]
  exact verdict ▸ judged

/-- The header of a frame to every station. -/
def broadcastHeader (etherType : EtherType) (typeOrLength : UInt16) : Header :=
  .ethernet ⟨.broadcast, ⟨#v[0x02, 0x1b, 0x2c, 0x3d, 0x4e, 0x5f]⟩, etherType, typeOrLength⟩

/-- The header of a protocol of an organisation. -/
def protocolHeader (destination : AccessPoint) (oui : Oui) : Header :=
  .llcSnap ⟨destination, .stp, .unnumberedInformation, oui, .cdp⟩

/-- The header of a datagram to a name server. -/
def queryHeader (checksum : UInt16) : Header :=
  .udp ⟨⟨0x1234⟩, .dns, 11, checksum⟩

/-- Headers of each kind that are given in different ways. -/
def sampleHeaders : Array Header :=
  #[broadcastHeader .ipv4 0x0800, broadcastHeader (.custom 0x0800) 0x0800,
    broadcastHeader .llc 2048, protocolHeader .snap .cisco, protocolHeader (.custom 0xaa) .cisco,
    protocolHeader .snap .rfc1042, queryHeader 0xbeef, queryHeader 0xbeee]

/-- A named type, its code and a length of as much are equal on the wire, and so are a named access
point and its code; another organisation or another checksum makes a difference. -/
theorem headers_of_one_number_are_equal :
    let bench := run ⟨.initial, #[], sampleHeaders⟩ [.readCopy 1 .hash]
    bench.Encodes (.copy 0) (broadcastHeader .ipv4 0x0800) ⟨14, [(0, 6), (6, 6), (12, 2)]⟩ ∧
      (broadcastHeader .ipv4 0x0800).numbers = [0xffffffffffff, 0x021b2c3d4e5f, 0x0800] ∧
      bench.Encodes (.copy 3) (protocolHeader .snap .cisco)
        ⟨8, [(0, 1), (1, 1), (2, 1), (3, 3), (6, 2)]⟩ ∧
      (protocolHeader .snap .cisco).numbers = [0xaa, 0x42, 0x03, 0x00000c, 0x2000] ∧
      bench.Encodes (.copy 6) (queryHeader 0xbeef) ⟨8, [(0, 2), (2, 2), (4, 2), (6, 2)]⟩ ∧
      (queryHeader 0xbeef).numbers = [0x1234, 53, 11, 0xbeef] ∧
      bench.JudgesHeaders (.copy 0) (broadcastHeader .ipv4 0x0800)
        (.copy 1) (broadcastHeader (.custom 0x0800) 0x0800) true ∧
      bench.JudgesHeaders (.copy 2) (broadcastHeader .llc 2048)
        (.copy 0) (broadcastHeader .ipv4 0x0800) true ∧
      bench.JudgesHeaders (.copy 3) (protocolHeader .snap .cisco)
        (.copy 4) (protocolHeader (.custom 0xaa) .cisco) true ∧
      bench.JudgesHeaders (.copy 3) (protocolHeader .snap .cisco)
        (.copy 5) (protocolHeader .snap .rfc1042) false ∧
      bench.JudgesHeaders (.copy 6) (queryHeader 0xbeef) (.copy 7) (queryHeader 0xbeee) false := by
  intro bench
  obtain ⟨encodes, judges⟩ := headers_encode_numbers #[] sampleHeaders [.readCopy 1 .hash]
  exact ⟨encodes (.copy 0) _ rfl _ rfl, by decide, encodes (.copy 3) _ rfl _ rfl, by decide,
    encodes (.copy 6) _ rfl _ rfl, by decide,
    (judges (.copy 0) _ (.copy 1) _ rfl rfl).2 (.ethernet _ _),
    (judges (.copy 2) _ (.copy 0) _ rfl rfl).2 (.ethernet _ _),
    (judges (.copy 3) _ (.copy 4) _ rfl rfl).2 (.llcSnap _ _),
    (judges (.copy 3) _ (.copy 5) _ rfl rfl).2 (.llcSnap _ _),
    (judges (.copy 6) _ (.copy 7) _ rfl rfl).2 (.udp _ _)⟩

end Encapsulation.Workbench
