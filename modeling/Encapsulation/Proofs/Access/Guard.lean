import Encapsulation.Access.Equality
import Encapsulation.Proofs.Access.Build
import Encapsulation.Proofs.Memo.Guard

/-!
# No cell asks for itself

The cells of a chain are ordered: those of a packet come after everything further in and after
those of its own header, and the cells of one object come in the order of `View.level`. Every
computation asks only for cells that come before its own. The bytes are the first of a packet, so
they may not ask for its length, and only look into that cell; a length that is the number of the
bytes may ask for these. So computations nest about as deep as the chain, and no deeper.
-/
namespace Encapsulation

open Memo.Eval (AsksWithin bind_eq_ok)

namespace Header

variable (object : Object) (header : Header)

/-- A view of a header whose computation asks for cells of the header below it asks for cells of
the header. -/
theorem remember_asks {object : Object} (view : View) {level : Nat} (below : view.level < level)
    {compute : Access view.Value}
    (asks : compute.AsksWithin (object.cells view.level) view.level) :
    (Access.remember object view compute).AsksWithin (object.cells level) level := by
  have answered := asks.resolve (object.cells_mono (Nat.le_of_lt below))
    (Object.mem_cells.mpr ⟨rfl, below⟩) fun member => Nat.lt_irrefl _ member.2
  exact answered.widen subset_rfl below

/-- The length of a header asks for nothing else. -/
theorem length_asks {level : Nat} (below : 1 < level) :
    (header.length object).AsksWithin (object.cells level) level :=
  remember_asks .length below (.pure _ _ header.size)

/-- The bytes of a header ask for nothing else. -/
theorem readBytes_asks {level : Nat} (below : 0 < level) :
    (header.readBytes object).AsksWithin (object.cells level) level :=
  remember_asks .bytes below ((AsksWithin.emit _ _ _).map fun _ => header.bytes)

/-- The hexadecimal form of a header asks for its bytes. -/
theorem hex_asks {level : Nat} (below : 2 < level) :
    (header.hex object).AsksWithin (object.cells level) level :=
  remember_asks .hex below ((readBytes_asks object header (by decide)).map _)

/-- The hash of a header asks for its bytes. -/
theorem hash_asks {level : Nat} (below : 2 < level) :
    (header.hash object).AsksWithin (object.cells level) level :=
  remember_asks .hash below ((readBytes_asks object header (by decide)).map _)

/-- The text of a header asks for its length or its hexadecimal form, or is given. -/
theorem text_asks {level : Nat} (below : 3 < level) :
    (header.text object).AsksWithin (object.cells level) level := by
  refine remember_asks .text below ?_
  cases header with
  | ethernet fields => exact (length_asks object _ (by decide)).map fields.describe
  | llcSnap fields => exact (length_asks object _ (by decide)).map fields.describe
  | udp fields => exact (length_asks object _ (by decide)).map fields.describe
  | custom fields =>
    cases given : fields.text with
    | some text =>
      simp only [given]
      exact .pure _ _ text
    | none =>
      simp only [given]
      exact hex_asks object _ (by decide)

/-- Every view of a header asks for cells of the header. -/
theorem read_asks (view : View) : (header.read object view).AsksWithin (object.cells 4) 4 := by
  cases view with
  | length => exact length_asks object header (by decide)
  | bytes => exact readBytes_asks object header (by decide)
  | hex => exact hex_asks object header (by decide)
  | text => exact text_asks object header (by decide)
  | hash => exact hash_asks object header (by decide)

/-- A comparison of headers asks for the bytes of one after the other. -/
theorem equals_asks (otherObject : Object) (other : Header) :
    (header.equals object otherObject other).AsksWithin Set.univ 1 := by
  have bytes : ∀ object (header : Header), (header.readBytes object).AsksWithin Set.univ 1 :=
    fun object header =>
      (readBytes_asks object header Nat.one_pos).widen (Set.subset_univ _) (Nat.le_refl 1)
  unfold equals
  split
  · exact .pure _ _ true
  · split
    · exact .pure _ _ false
    · exact (bytes object header).bind fun own => (bytes otherObject other).map (own == ·)

end Header

variable {region : Set Cell} {depth : Nat}

/-- Adding lengths asks for nothing. -/
theorem Access.addLengths_asks (region : Set Cell) (depth first second : Nat) :
    (Access.addLengths first second).AsksWithin region depth := by
  unfold addLengths
  split
  · exact .pure region depth (first + second)
  · exact .fail region depth Fault.overflow

namespace Layer

variable (layer : Layer) {object : Object}

/-- What is taken from the header of a layer asks for cells of the header. -/
theorem withHeader_asks {α : Type} (absent : α) {view : Object → Header → Access α}
    (asks : ∀ header, (view object header).AsksWithin region depth) :
    (layer.withHeader object absent view).AsksWithin region depth := by
  unfold withHeader
  cases layer.header? with
  | none => exact .pure region depth absent
  | some header => exact asks header

/-- The bytes of a layer ask for those of its header and of its payload, unless they are
replaced. -/
theorem bytesAround_asks {payloadBytes : Access Bytes} (within : object.cells 1 ⊆ region)
    (deep : 1 ≤ depth) (inside : payloadBytes.AsksWithin region depth) :
    (layer.bytesAround object payloadBytes).AsksWithin region depth := by
  unfold bytesAround
  cases layer.replacement? with
  | some replacement => exact .pure region depth replacement
  | none =>
    have header := layer.withHeader_asks [] fun header =>
      (Header.readBytes_asks object header Nat.one_pos).widen within deep
    exact header.bind fun before => inside.map _

/-- The length of a layer asks for those of its header and of its payload, or for its own bytes, or
for nothing. -/
theorem lengthAround_asks {payloadLength : Access Nat} {ownBytes : Access Bytes}
    (within : object.cells 2 ⊆ region) (deep : 2 ≤ depth)
    (inside : payloadLength.AsksWithin region depth) (bytes : ownBytes.AsksWithin region depth) :
    (layer.lengthAround object payloadLength ownBytes).AsksWithin region depth := by
  unfold lengthAround
  cases layer.lengthRule with
  | fixed count => exact .pure region depth count.toNat
  | measured => exact bytes.map List.length
  | composed =>
    have header := layer.withHeader_asks 0 fun header =>
      (Header.length_asks object header (by decide)).widen within deep
    refine header.bind fun before => inside.bind fun inside => ?_
    exact (Access.addLengths_asks region depth before inside).bind fun sum =>
      Access.addLengths_asks region depth sum layer.pad.length

/-- The text of a layer asks for those of its header and of its payload. -/
theorem textAround_asks {payloadText : Access String} (within : object.cells 4 ⊆ region)
    (deep : 4 ≤ depth) (inside : payloadText.AsksWithin region depth) :
    (layer.textAround object payloadText).AsksWithin region depth := by
  have header := layer.withHeader_asks "" fun header =>
    (Header.text_asks object header (by decide)).widen within deep
  exact header.bind fun before => inside.map _

/-- A comparison of the headers of two packets asks for their bytes. -/
theorem headersEqual_asks (object otherObject : Object) (other : Option Header) :
    (layer.headersEqual object otherObject other).AsksWithin Set.univ 1 := by
  unfold headersEqual
  split
  · exact .pure _ _ true
  · next header otherHeader _ => exact header.equals_asks object otherObject otherHeader
  · exact .pure _ _ false

/-- A comparison with a layer around some payload asks for the bytes of the headers, and then for
what comparing the payload asks for. -/
theorem equalsAround_asks (chain inner otherChain : Nat) (other : Packet)
    {payloadEquals : Option Packet → Access Bool} (deep : 1 ≤ depth)
    (inside : (payloadEquals other.payload?).AsksWithin Set.univ depth) :
    (layer.equalsAround chain inner otherChain other payloadEquals).AsksWithin Set.univ depth := by
  unfold equalsAround
  split
  · exact .pure _ _ true
  · split
    · exact .pure _ _ false
    · refine ((layer.headersEqual_asks _ _ _).widen subset_rfl deep).bind fun headers => ?_
      split
      · exact .pure _ _ false
      · exact inside.map _

end Layer

namespace Packet

/-- A view of a packet whose computation asks for what is further in and for cells of the packet
below it asks for what is further in and for cells of the packet. -/
theorem remember_asks {chain depth level : Nat} (view : View) (below : view.level < level)
    {compute : Access view.Value}
    (asks : compute.AsksWithin (reach chain depth view.level) (depth + view.level)) :
    (Access.remember (.packet chain depth) view compute).AsksWithin (reach chain depth level)
      (depth + level) := by
  have answered : (Access.remember (.packet chain depth) view compute).AsksWithin
      (reach chain depth level) (depth + view.level + 1) :=
    asks.resolve (reach_mono chain depth (Nat.le_of_lt below)) (by simp [below]) (by simp)
  exact answered.widen subset_rfl (Nat.add_lt_add_left below depth)

/-- Bytes that are checked ask for what they are put together from; the length they are held
against is only looked at. -/
theorem checked_asks {chain depth : Nat} {kind : Kind} {compose : Access Bytes}
    (asks : compose.AsksWithin (reach chain depth 0) depth) :
    (checked (.packet chain depth) kind compose).AsksWithin (reach chain depth 1) (depth + 1) := by
  have building : (compose >>= fun built =>
      Memo.Eval.emit (.bytesBuilt (.packet chain depth) kind built.length) >>= fun _ =>
        pure built).AsksWithin (reach chain depth 0) depth :=
    asks.bind fun built => (AsksWithin.emit _ _ _).map fun _ => built
  refine (remember_asks .bytes Nat.one_pos building).bind fun built => ?_
  refine (AsksWithin.peek _ _ (Cell.mk (.packet chain depth) .length)).bind fun length => ?_
  cases length with
  | none => exact .pure _ _ built
  | some length =>
    dsimp only
    split
    · exact .pure _ _ built
    · exact .fail _ _ _

variable (chain : Nat) (packet : Packet)

/-- The bytes of a packet ask for bytes further in. -/
theorem readBytes_asks :
    (readBytes chain packet).AsksWithin (reach chain packet.depth 1) (packet.depth + 1) := by
  induction packet with
  | unknown data => exact checked_asks (.pure _ _ data)
  | bare layer =>
    exact checked_asks (layer.bytesAround_asks (header_cells_subset chain 1 1 0) (Nat.le_refl 1)
      (.pure _ _ []))
  | wrap layer payload ih =>
    have inside : (readBytes chain payload).AsksWithin (reach chain (payload.depth + 1) 0)
        (payload.depth + 1) := ih.widen (reach_succ chain payload.depth 1) (Nat.le_refl _)
    exact checked_asks (layer.bytesAround_asks (header_cells_subset chain (payload.depth + 1) 1 0)
      (Nat.le_add_left 1 _) inside)

/-- The length of a packet asks for lengths further in, or for its bytes. -/
theorem length_asks :
    (length chain packet).AsksWithin (reach chain packet.depth 2) (packet.depth + 2) := by
  induction packet with
  | unknown data => exact remember_asks .length (by decide) (.pure _ _ data.length)
  | bare layer =>
    exact remember_asks .length (by decide)
      (layer.lengthAround_asks (header_cells_subset chain 1 2 1) (Nat.le_refl 2) (.pure _ _ 0)
        (readBytes_asks chain (.bare layer)))
  | wrap layer payload ih =>
    have inside : (length chain payload).AsksWithin (reach chain (payload.depth + 1) 1)
        (payload.depth + 1 + 1) :=
      ih.widen ((reach_succ chain payload.depth 2).trans (reach_mono chain _ (by decide)))
        (Nat.le_refl _)
    exact remember_asks .length (by decide)
      (layer.lengthAround_asks (header_cells_subset chain (payload.depth + 1) 2 1)
        (Nat.le_add_left 2 _) inside (readBytes_asks chain (.wrap layer payload)))

/-- What is worked out from the bytes of a packet asks for them. -/
theorem ofBytes_asks (view : View) (above : 0 < view.level) (derive : Bytes → view.Value) :
    (Access.remember (packet.object chain) view (readBytes chain packet >>= fun bytes =>
      pure (derive bytes))).AsksWithin (reach chain packet.depth 4) (packet.depth + 4) :=
  remember_asks view view.level_lt
    (((readBytes_asks chain packet).widen (reach_mono chain _ above)
      (Nat.add_le_add_left above packet.depth)).map derive)

/-- The text of a packet asks for texts further in, and that of raw data for its length. -/
theorem text_asks :
    (text chain packet).AsksWithin (reach chain packet.depth 4) (packet.depth + 4) := by
  induction packet with
  | unknown data =>
    have counted : (length chain (.unknown data)).AsksWithin (reach chain 1 3) (1 + 3) :=
      (length_asks chain (.unknown data)).widen (reach_mono chain 1 (by decide))
        (show 1 + 2 ≤ 1 + 3 by decide)
    exact remember_asks .text (by decide) (counted.map (describeData data))
  | bare layer =>
    exact remember_asks .text (by decide)
      (layer.textAround_asks (header_cells_subset chain 1 4 3) (Nat.le_refl 4) (.pure _ _ ""))
  | wrap layer payload ih =>
    have inside : (text chain payload).AsksWithin (reach chain (payload.depth + 1) 3)
        (payload.depth + 1 + 3) :=
      ih.widen ((reach_succ chain payload.depth 4).trans (reach_mono chain _ (by decide)))
        (Nat.le_of_eq (by omega))
    exact remember_asks .text (by decide)
      (layer.textAround_asks (header_cells_subset chain (payload.depth + 1) 4 3)
        (show 4 ≤ payload.depth + 1 + 3 by omega) inside)

/-- Every view of a packet asks for its own cells and for what is further in. -/
theorem read_asks (view : View) :
    (read chain packet view).AsksWithin (reach chain packet.depth 4) (packet.depth + 4) := by
  cases view with
  | length =>
    exact (length_asks chain packet).widen (reach_mono chain _ (by decide))
      (Nat.add_le_add_left (by decide) _)
  | bytes =>
    exact (readBytes_asks chain packet).widen (reach_mono chain _ (by decide))
      (Nat.add_le_add_left (by decide) _)
  | hex => exact ofBytes_asks chain packet .hex (by decide) (Bytes.toHex " ")
  | text => exact text_asks chain packet
  | hash => exact ofBytes_asks chain packet .hash (by decide) Bytes.hash

/-- A comparison of packets asks for bytes of headers and of packets, one after the other. -/
theorem equals_asks (otherChain : Nat) (other : Packet) :
    (equals chain otherChain packet other).AsksWithin Set.univ (other.depth + 1) := by
  induction packet generalizing other with
  | unknown data =>
    have deep : 1 + 1 ≤ other.depth + 1 := Nat.succ_le_succ other.depth_pos
    unfold equals
    split
    · exact .pure _ _ false
    · refine ((readBytes_asks chain (.unknown data)).widen (Set.subset_univ _) deep).bind
        fun own => ?_
      exact ((readBytes_asks otherChain other).widen (Set.subset_univ _) (Nat.le_refl _)).map _
  | bare layer =>
    unfold equals
    refine layer.equalsAround_asks chain 1 otherChain other (Nat.le_add_left 1 _) ?_
    cases other.payload? with
    | none => exact .pure _ _ true
    | some inner => exact .pure _ _ false
  | wrap layer payload ih =>
    unfold equals
    refine layer.equalsAround_asks chain _ otherChain other (Nat.le_add_left 1 _) ?_
    cases other with
    | unknown data => exact .pure _ _ false
    | bare otherLayer => exact .pure _ _ false
    | wrap otherLayer inner => exact (ih inner).widen subset_rfl (Nat.le_succ _)

/-- A comparison of the headers of two packets asks for their bytes. -/
theorem headerEquals?_asks (otherChain : Nat) (other : Packet) :
    (packet.headerEquals? chain otherChain other).AsksWithin Set.univ 1 := by
  unfold headerEquals?
  split
  · next header otherHeader _ _ =>
    rw [map_eq_pure_bind]
    exact (header.equals_asks _ _ otherHeader).map some
  · exact .pure _ _ none

end Packet

namespace Draft

variable (draft : Draft)

/-- What is reported before the payload is built asks for nothing. -/
theorem announce_asks : draft.announce.AsksWithin region depth := by
  cases draft with
  | llcSnap header => exact .emit _ _ _
  | ethernet draft => exact .pure _ _ ()
  | udp draft => exact .pure _ _ ()
  | custom layer => exact .pure _ _ ()

/-- A layer is made of a draft by asking for the length of the payload at most. -/
theorem finish_asks {payloadLength : Access Nat}
    (counted : payloadLength.AsksWithin region depth) :
    (draft.finish payloadLength).AsksWithin region depth := by
  cases draft with
  | ethernet draft => exact counted.bind fun _ => (AsksWithin.emit _ _ _).map _
  | llcSnap header => exact .pure _ _ (Layer.llcSnap header)
  | custom layer => exact .pure _ _ (Layer.custom layer)
  | udp draft =>
    have field : Memo.Eval.AsksWithin (if draft.correctLength then
        payloadLength >>= fun length => UInt16.ofNat <$> Access.addLengths UdpHeader.size length
      else pure draft.length) region depth := by
      split
      · refine counted.bind fun length => ?_
        rw [map_eq_pure_bind]
        exact (Access.addLengths_asks region depth _ length).map UInt16.ofNat
      · exact .pure _ _ draft.length
    rw [finish_udp]
    exact field.bind fun length => (AsksWithin.emit _ _ _).map _

end Draft

namespace Builder

/-- A packet has as many layers as the builder that it is built out of. -/
theorem depth_of_build {chain : Nat} {builder : Builder} {packet : Packet} {computing : List Cell}
    {before after : Memory} (built : builder.build chain computing before = .ok packet after) :
    packet.depth = builder.depth := by
  induction builder generalizing packet before after with
  | unknown data =>
    obtain ⟨rfl, -⟩ := EStateM.Result.ok.inj built
    rfl
  | bare draft =>
    obtain ⟨-, announced, -, finished⟩ := bind_eq_ok.mp built
    obtain ⟨layer, last, -, made⟩ := bind_eq_ok.mp finished
    obtain ⟨rfl, -⟩ := EStateM.Result.ok.inj made
    rfl
  | wrap draft payload ih =>
    obtain ⟨-, announced, -, rest⟩ := bind_eq_ok.mp built
    obtain ⟨inside, middle, builtInside, finished⟩ := bind_eq_ok.mp rest
    obtain ⟨layer, last, -, made⟩ := bind_eq_ok.mp finished
    obtain ⟨rfl, -⟩ := EStateM.Result.ok.inj made
    exact congrArg Nat.succ (ih builtInside)

/-- A build asks for the length of one payload after the other. -/
theorem build_asks (chain : Nat) (builder : Builder) :
    (builder.build chain).AsksWithin Set.univ (builder.depth + 1) := by
  induction builder with
  | unknown data => exact .pure _ _ (Chain.unknown data)
  | bare draft =>
    exact draft.announce_asks.bind fun _ => (draft.finish_asks (.pure _ _ 0)).map _
  | wrap draft payload ih =>
    refine draft.announce_asks.bind fun _ => ?_
    refine (ih.widen subset_rfl (Nat.le_succ _)).bind_of_mayReturn fun inside returned => ?_
    obtain ⟨computing, before, after, built⟩ := returned
    have counted := (Packet.length_asks chain inside).widen (Set.subset_univ _)
      (Nat.le_of_eq (congrArg (· + 2) (depth_of_build built)))
    exact (draft.finish_asks counted).map _

end Builder

end Encapsulation
