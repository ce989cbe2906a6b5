import Encapsulation.Proofs.Bytes.Edit
import Encapsulation.Proofs.Packet.Composed
import Encapsulation.Proofs.Workbench.Shown

/-!
# Hashes on a bench

The hash that a packet shows is the one of its bytes, so what holds of the hashes of byte strings
holds of packets: a small edit of the bytes always shows, and the hash of a layer that puts header,
payload and pad one after another can be worked out from the hashes of these parts and the lengths
of the last two, without any byte.
-/
namespace Encapsulation

/-- The hash of the bytes of a header, or of no bytes if there is no header. -/
theorem Layer.hash_headerBytes (layer : Layer) :
    Bytes.hash layer.headerBytes = (layer.header?.map (·.meaning .hash)).getD 1 := by
  unfold headerBytes
  cases layer.header? with
  | none => rfl
  | some header => rfl

/-- The hash of a layer that puts its parts one after another, out of the hashes of the parts. -/
theorem Layer.hash_plainBytes {layer : Layer} (composed : layer.replacement? = none)
    (payload : Bytes) :
    Bytes.hash (layer.plainBytes payload) =
      Bytes.joinHash (Bytes.joinHash (Bytes.hash layer.headerBytes) (Bytes.hash payload)
        payload.length) (Bytes.hash layer.pad) layer.pad.length := by
  have parts : layer.plainBytes payload = layer.headerBytes ++ payload ++ layer.pad := by
    simp only [plainBytes, composed]
  rw [parts, Bytes.hash_append_eq_joinHash, Bytes.hash_append_eq_joinHash]

namespace Workbench

variable {bench : Workbench} {target : Located}

/-- A packet on a sound bench whose bytes are returned is as ready to show its hash. -/
theorem Sound.hash_returns {bytes : Bytes} {reached : Workbench} (sound : bench.Sound)
    (held : bench.Holds target) (returned : read target .bytes bench = .ok bytes reached) :
    ∃ elsewhere, read target .hash bench = .ok (Bytes.hash bytes) elsewhere := by
  have meant : bytes = target.packet.plainBytes :=
    sound.truthful.packets target held .bytes bytes reached returned
  have ready : target.packet.BytesReady target.chain bench.memory.bank := by
    obtain ⟨_, ⟨ready, -⟩ | ⟨-, cause, failed⟩⟩ := sound.read_outcome held .bytes
    · exact ready
    · cases returned.symm.trans failed
  obtain ⟨elsewhere, ⟨-, shown⟩ | ⟨unready, -⟩⟩ := sound.read_outcome held .hash
  · rw [meant]
    exact ⟨elsewhere, shown⟩
  · exact absurd (.inr ready) unready

/-- A regular packet on a sound bench shows the hash of its bytes. -/
theorem Sound.shows_hash (sound : bench.Sound) (held : bench.Holds target)
    (regular : target.packet.Regular) :
    bench.Shows target .hash (Bytes.hash target.packet.plainBytes) :=
  sound.shows held fun bank => regular.ready_of_ne_length target.chain bank (by decide)

/-- A byte string and one that a small edit makes of it have different hashes. So, from a store of
any packets and after any run: two packets whose bytes are a small edit apart never show the same
hash; the hash is returned wherever the bytes are, and always by regular packets. -/
theorem hashes_tell_edits (chains : Array (Option Packet)) (copies : Array Header)
    (history : List Operation) :
    let bench := run ⟨.initial, chains, copies⟩ history
    (∀ bytes other : Bytes, Bytes.Edited bytes other → Bytes.hash bytes ≠ Bytes.hash other) ∧
      (∀ target, bench.Holds target → ∀ bytes reached,
        read target .bytes bench = .ok bytes reached → bytes = target.packet.plainBytes ∧
          ∃ elsewhere, read target .hash bench = .ok (Bytes.hash bytes) elsewhere) ∧
      ∀ left right, bench.Holds left → bench.Holds right →
        Bytes.Edited left.packet.plainBytes right.packet.plainBytes →
          bench.TellsApart .hash left right ∧
            (left.packet.Regular → right.packet.Regular →
              ∃ hash other, bench.Shows left .hash hash ∧ bench.Shows right .hash other ∧
                hash ≠ other) := by
  intro bench
  obtain ⟨-, sound⟩ := run_leads (sound_start chains copies) history
  refine ⟨fun bytes other edited => edited.hash_ne, ?_, ?_⟩
  · intro target held bytes reached returned
    have meant := sound.truthful.packets target held .bytes bytes reached returned
    exact ⟨meant, sound.hash_returns held returned⟩
  · intro left right held otherHeld edited
    have different : Bytes.hash left.packet.plainBytes ≠ Bytes.hash right.packet.plainBytes :=
      edited.hash_ne
    refine ⟨sound.tellsApart held otherHeld different, fun regular otherRegular => ?_⟩
    exact ⟨_, _, sound.shows_hash held regular, sound.shows_hash otherHeld otherRegular, different⟩

/-- Data under an LLC and SNAP header. -/
def linkData (data : Bytes) : Packet := .wrap (.llcSnap .initial) (.unknown data)

/-- Data whose first and last bytes change places shows another hash. -/
theorem exchanged_data_is_told_apart :
    let left : Located := ⟨0, linkData [1, 2, 3]⟩
    let right : Located := ⟨1, linkData [3, 2, 1]⟩
    let bench := run ⟨.initial, #[some left.packet, some right.packet], #[]⟩ [.read 0 0 .length]
    (bench.Holds left ∧ bench.Holds right) ∧
      Bytes.Edited left.packet.plainBytes right.packet.plainBytes ∧
      (left.packet.Regular ∧ right.packet.Regular) ∧ bench.TellsApart .hash left right ∧
      ∃ hash other, bench.Shows left .hash hash ∧ bench.Shows right .hash other ∧
        hash ≠ other := by
  intro left right bench
  obtain ⟨change, -⟩ := run_leads
    (sound_start #[some left.packet, some right.packet] #[]) [.read 0 0 .length]
  have held : bench.Holds left := change.holds ⟨left.packet, rfl, Chain.mem_walk_self _⟩
  have otherHeld : bench.Holds right := change.holds ⟨right.packet, rfl, Chain.mem_walk_self _⟩
  have edited : Bytes.Edited left.packet.plainBytes right.packet.plainBytes :=
    .exchanged 8 2 (by decide) (by decide) (by decide)
  have regular : left.packet.Regular := ⟨.inr ⟨rfl, rfl⟩, trivial⟩
  have otherRegular : right.packet.Regular := ⟨.inr ⟨rfl, rfl⟩, trivial⟩
  obtain ⟨-, -, tell⟩ := hashes_tell_edits #[some left.packet, some right.packet] #[]
    [.read 0 0 .length]
  obtain ⟨apart, shown⟩ := tell left right held otherHeld edited
  exact ⟨⟨held, otherHeld⟩, edited, ⟨regular, otherRegular⟩, apart, shown regular otherRegular⟩

/-- A regular packet on a sound bench shows its bytes, and as its hash their polynomial with a one in
front. -/
theorem Sound.shows_polynomial (sound : bench.Sound) (held : bench.Holds target)
    (regular : target.packet.Regular) :
    ∃ bytes, bench.Shows target .bytes bytes ∧
      bench.Shows target .hash (Int32.ofInt (31 ^ bytes.length +
        ∑ i : Fin bytes.length, Bytes.coefficient bytes[i] * 31 ^ (bytes.length - 1 - i))) := by
  have polynomial := Bytes.hash_eq_ofInt target.packet.plainBytes
  rw [Bytes.polynomial_eq_sum] at polynomial
  have own := sound.shows_hash held regular
  rw [polynomial] at own
  refine ⟨target.packet.plainBytes, ?_, own⟩
  exact sound.shows held fun bank => regular.ready_of_ne_length target.chain bank (by decide)

/-- A packet of a layer around a payload shows the hash that comes out of a hash of the header, the
hash and the length that the payload shows, and the pad. The payload shows a hash, and a length if
it fits. -/
def JoinsHashes (bench : Workbench) (target : Located) (layer : Layer) (headerHash : Int32)
    (payload : Packet) : Prop :=
  ∃ payloadHash, bench.Shows ⟨target.chain, payload⟩ .hash payloadHash ∧
    (payload.Fitting → ∃ length, bench.Shows ⟨target.chain, payload⟩ .length length) ∧
    ∀ later length reached,
      read ⟨target.chain, payload⟩ .length (bench.run later) = .ok length reached →
        bench.Shows target .hash
          (Bytes.joinHash (Bytes.joinHash headerHash payloadHash length)
            (Bytes.hash layer.pad) layer.pad.length) ∧
          (layer.pad = [] →
            bench.Shows target .hash (Bytes.joinHash headerHash payloadHash length))

/-- A regular packet on a sound bench whose parts stand one after another joins their hashes. -/
theorem Sound.joinsHashes {layer : Layer} {payload : Packet} (sound : bench.Sound)
    (held : bench.Holds target) (regular : target.packet.Regular)
    (wrap : target.packet = .wrap layer payload) (composed : layer.replacement? = none) :
    bench.JoinsHashes target layer (Bytes.hash layer.headerBytes) payload := by
  have inner : payload ∈ target.packet.walk := wrap ▸ Chain.mem_walk_wrap payload.mem_walk_self
  have inside : bench.Holds ⟨target.chain, payload⟩ := held.inner inner
  have innerRegular : payload.Regular := regular.inner inner
  have own := sound.shows_hash held regular
  rw [wrap, Packet.plainBytes, Layer.hash_plainBytes composed] at own
  refine ⟨_, sound.shows_hash inside innerRegular, ?_, ?_⟩
  · intro fitting
    exact ⟨_, sound.shows inside fun bank => innerRegular.ready fitting bank .length⟩
  · intro later length reached returned
    have meant : length = payload.plainBytes.length := by
      rw [innerRegular.agrees]
      exact sound.eq_meaning inside later returned
    rw [meant]
    refine ⟨own, fun unpadded => ?_⟩
    rw [unpadded, List.length_nil, Bytes.joinHash_nil] at own
    exact own

/-- The hash of two byte strings one after the other comes out of the hashes of both and the number
of bytes in the second one. So, from a store of any packets and after any run: a regular packet
shows its bytes and, as its hash, their polynomial with a one in front, cut down to 32 bits; and
where its parts stand one after another, that hash comes out of the one that its header shows, if it
has a header, of the hash and the length that its payload shows, and, in the same way, of its pad. -/
theorem hashes_compose (chains : Array (Option Packet)) (copies : Array Header)
    (history : List Operation) :
    let bench := run ⟨.initial, chains, copies⟩ history
    (∀ front back : Bytes, Bytes.hash (front ++ back) =
      Bytes.hash front * 31 ^ back.length + Bytes.hash back - 31 ^ back.length) ∧
      ∀ target, bench.Holds target → target.packet.Regular →
        (∃ bytes, bench.Shows target .bytes bytes ∧
          bench.Shows target .hash (Int32.ofInt (31 ^ bytes.length +
            ∑ i : Fin bytes.length, Bytes.coefficient bytes[i] * 31 ^ (bytes.length - 1 - i)))) ∧
        ∀ layer, target.packet.layer? = some layer → layer.replacement? = none →
          ∃ headerHash, bench.HeaderShows target .hash headerHash ∧
            (target.packet = .bare layer →
              bench.Shows target .hash
                (Bytes.joinHash (headerHash.getD 1) (Bytes.hash layer.pad) layer.pad.length)) ∧
            ∀ payload, target.packet = .wrap layer payload →
              bench.JoinsHashes target layer (headerHash.getD 1) payload := by
  intro bench
  obtain ⟨-, sound⟩ := run_leads (sound_start chains copies) history
  refine ⟨Bytes.hash_append_eq_joinHash, fun target held regular => ?_⟩
  refine ⟨sound.shows_polynomial held regular, fun layer outermost composed => ?_⟩
  have header : bench.HeaderShows target .hash (layer.header?.map (·.meaning .hash)) := by
    have shown := sound.headerShows held .hash
    rwa [Packet.header?, outermost] at shown
  refine ⟨_, header, fun bare => ?_, fun payload wrap => ?_⟩
  · have own := sound.shows_hash held regular
    rw [bare, Packet.plainBytes, Layer.hash_plainBytes composed, Layer.hash_headerBytes,
      List.length_nil, Bytes.joinHash_nil] at own
    exact own
  · have joined := sound.joinsHashes held regular wrap composed
    rwa [Layer.hash_headerBytes] at joined

/-- A padded frame with an LLC header around three bytes of data. -/
def paddedLinkData : Packet :=
  .wrap (.ethernet ⟨.broadcast, .zero, .llc, 11⟩ [0, 0]) (linkData [1, 2, 3])

/-- The hash of the frame comes out of those of its header, its payload and its pad. -/
theorem padded_frame_hash_composes :
    let target : Located := ⟨0, paddedLinkData⟩
    let bench := run ⟨.initial, #[some paddedLinkData], #[]⟩ [.read 0 1 .text]
    (bench.Holds target ∧ target.packet.Regular) ∧
      ∃ headerHash payloadHash, bench.HeaderShows target .hash headerHash ∧
        bench.Shows ⟨0, linkData [1, 2, 3]⟩ .hash payloadHash ∧
        bench.Shows ⟨0, linkData [1, 2, 3]⟩ .length 11 ∧
        bench.Shows target .hash
          (Bytes.joinHash (Bytes.joinHash (headerHash.getD 1) payloadHash 11)
            (Bytes.hash [0, 0]) 2) := by
  intro target bench
  obtain ⟨change, sound⟩ := run_leads (sound_start #[some paddedLinkData] #[]) [.read 0 1 .text]
  have held : bench.Holds target := change.holds ⟨paddedLinkData, rfl, Chain.mem_walk_self _⟩
  have inside : bench.Holds ⟨0, linkData [1, 2, 3]⟩ :=
    held.inner (Chain.mem_walk_wrap (Chain.mem_walk_self _))
  have library : Packet.Library (linkData [1, 2, 3]) := ⟨rfl, trivial⟩
  have fitting : Packet.Fitting (linkData [1, 2, 3]) := library.composed.fitting (by decide)
  have regular : target.packet.Regular := ⟨.inr ⟨rfl, rfl⟩, library.composed.regular⟩
  obtain ⟨-, compose⟩ := hashes_compose #[some paddedLinkData] #[] [.read 0 1 .text]
  obtain ⟨-, parts⟩ := compose target held regular
  obtain ⟨headerHash, header, -, wrapped⟩ := parts _ rfl rfl
  obtain ⟨payloadHash, payload, -, joined⟩ := wrapped (linkData [1, 2, 3]) rfl
  have length : bench.Shows ⟨0, linkData [1, 2, 3]⟩ .length 11 :=
    sound.shows inside fun bank => regular.2.ready fitting bank .length
  obtain ⟨reached, returned⟩ := length []
  obtain ⟨shown, -⟩ := joined [] 11 reached returned
  exact ⟨⟨held, regular⟩, headerHash, payloadHash, header, payload, length, shown⟩

end Workbench

end Encapsulation
