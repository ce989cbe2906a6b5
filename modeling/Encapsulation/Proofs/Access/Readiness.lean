import Encapsulation.Proofs.Access.Cells

/-!
# When views of packets are ready

Whether an access to a packet returns depends on what is remembered. Bytes are held against a
remembered length, so a layer whose length is not the number of its bytes gives its bytes only
while it does not remember its length, and a layer that remembers its bytes does not ask its
payload again. `BytesReady` and `LengthReady` say exactly from which banks the two views return.
Both look only at the cells for lengths of layers, and at those for bytes of layers around a
payload.
-/
namespace Encapsulation.Packet

open Memo (Bank)

/-- The number of bytes of a packet is its length. -/
def Agrees (packet : Packet) : Prop := packet.plainBytes.length = packet.plainLength

/-- A packet remembers a view. -/
def Remembers (chain : Nat) (bank : Bank Cell Cell.Value) (packet : Packet) (view : View) : Prop :=
  bank.isFilled ⟨packet.object chain, view⟩ = true

/-- The number of bytes of a packet is the length it remembers, if it remembers one. -/
def Passes (chain : Nat) (bank : Bank Cell Cell.Value) (packet : Packet) : Prop :=
  packet.Remembers chain bank .length → packet.Agrees

/-- The bytes of a packet can be had: they pass the check against the length, and they are
remembered or can be put together. -/
def BytesReady (chain : Nat) (bank : Bank Cell Cell.Value) : Packet → Prop
  | .unknown _ => True
  | .bare layer => Passes chain bank (.bare layer)
  | .wrap layer payload =>
    Passes chain bank (.wrap layer payload) ∧
      (Remembers chain bank (.wrap layer payload) .bytes ∨ layer.replacement?.isSome = true ∨
        BytesReady chain bank payload)

/-- The length of a packet can be had: it is remembered, or a sum that fits, or given, or the
number of bytes that can be had. -/
def LengthReady (chain : Nat) (bank : Bank Cell Cell.Value) : Packet → Prop
  | .unknown _ => True
  | .bare layer =>
    Remembers chain bank (.bare layer) .length ∨
      match layer.lengthRule with
      | .composed => plainLength (.bare layer) < UInt64.size
      | .measured => BytesReady chain bank (.bare layer)
      | .fixed _ => True
  | .wrap layer payload =>
    Remembers chain bank (.wrap layer payload) .length ∨
      match layer.lengthRule with
      | .composed => LengthReady chain bank payload ∧ plainLength (.wrap layer payload) < UInt64.size
      | .measured => BytesReady chain bank (.wrap layer payload)
      | .fixed _ => True

/-- A remembered length can be had. -/
theorem lengthReady_of_remembers {chain : Nat} {bank : Bank Cell Cell.Value} {packet : Packet}
    (remembered : packet.Remembers chain bank .length) : packet.LengthReady chain bank := by
  cases packet with
  | unknown data => trivial
  | bare layer => exact .inl remembered
  | wrap layer payload => exact .inl remembered

/-- A view of a packet can be had. -/
def Ready (chain : Nat) (bank : Bank Cell Cell.Value) (packet : Packet) : View → Prop
  | .length => packet.LengthReady chain bank
  | .bytes => packet.BytesReady chain bank
  | .hex => packet.Remembers chain bank .hex ∨ packet.BytesReady chain bank
  | .text => True
  | .hash => packet.Remembers chain bank .hash ∨ packet.BytesReady chain bank

/-- Two banks have the same lengths filled in a numbered chain up to a depth, and the same bytes
of layers around a payload. -/
def Alike (chain depth : Nat) (left right : Bank Cell Cell.Value) : Prop :=
  ∀ inner, 0 < inner → inner ≤ depth →
    left.isFilled ⟨.packet chain inner, .length⟩ = right.isFilled ⟨.packet chain inner, .length⟩ ∧
      (1 < inner →
        left.isFilled ⟨.packet chain inner, .bytes⟩ = right.isFilled ⟨.packet chain inner, .bytes⟩)

variable {chain depth : Nat} {left right : Bank Cell Cell.Value}

/-- Banks that are alike up to a depth are alike further in. -/
theorem Alike.mono {shallow : Nat} (alike : Alike chain depth left right) (le : shallow ≤ depth) :
    Alike chain shallow left right :=
  fun inner positive within => alike inner positive (Nat.le_trans within le)

/-- Banks that differ in the cells of a region only are alike if the region has none of the cells
that are looked at. -/
theorem Alike.of_spares {region : Set Cell} {before after : Memory}
    (advance : before.Advances region after)
    (lengths : ∀ inner, 0 < inner → inner ≤ depth →
      Cell.mk (.packet chain inner) .length ∉ region)
    (bytes : ∀ inner, 1 < inner → inner ≤ depth →
      Cell.mk (.packet chain inner) .bytes ∉ region) :
    Alike chain depth after.bank before.bank :=
  fun inner positive within => ⟨advance.isFilled_eq (lengths inner positive within),
    fun around => advance.isFilled_eq (bytes inner around within)⟩

/-- Cells of headers are not looked at. -/
theorem Alike.of_header_cells {object : Object} {level : Nat} {before after : Memory}
    (advance : before.Advances (object.cells level) after) (other : object.sort ≠ 0) :
    Alike chain depth after.bank before.bank := by
  have apart : ∀ inner view, Cell.mk (.packet chain inner) view ∉ object.cells level := by
    intro inner view member
    apply other
    rw [← (Object.mem_cells.mp member).1, Object.sort]
  exact .of_spares advance (fun inner _ _ => apart inner .length)
    (fun inner _ _ => apart inner .bytes)

/-- Banks that are alike pass the same checks. -/
theorem passes_congr (packet : Packet) (alike : Alike chain packet.depth left right) :
    packet.Passes chain left ↔ packet.Passes chain right := by
  have same := (alike packet.depth packet.depth_pos (Nat.le_refl _)).1
  simp only [Passes, Remembers, object, same]

/-- Bytes can be had from banks that are alike. -/
theorem bytesReady_congr (packet : Packet) (alike : Alike chain packet.depth left right) :
    packet.BytesReady chain left ↔ packet.BytesReady chain right := by
  induction packet with
  | unknown data => exact Iff.rfl
  | bare layer => exact passes_congr (.bare layer) alike
  | wrap layer payload ih =>
    have checks := passes_congr (.wrap layer payload) alike
    have inside := ih (alike.mono (Nat.le_succ _))
    have around : 1 < payload.depth + 1 := Nat.succ_lt_succ payload.depth_pos
    have remembered := (alike (payload.depth + 1) (Nat.succ_pos _) (Nat.le_refl _)).2 around
    simp only [BytesReady, checks, inside, Remembers, object, Chain.depth, remembered]

/-- Lengths can be had from banks that are alike. -/
theorem lengthReady_congr (packet : Packet) (alike : Alike chain packet.depth left right) :
    packet.LengthReady chain left ↔ packet.LengthReady chain right := by
  induction packet with
  | unknown data => exact Iff.rfl
  | bare layer =>
    have remembered := (alike 1 Nat.one_pos (Nat.le_refl _)).1
    have bytes := bytesReady_congr (.bare layer) alike
    simp only [LengthReady, bytes, Remembers, object, Chain.depth, remembered]
  | wrap layer payload ih =>
    have remembered := (alike (payload.depth + 1) (Nat.succ_pos _) (Nat.le_refl _)).1
    have inside := ih (alike.mono (Nat.le_succ _))
    have bytes := bytesReady_congr (.wrap layer payload) alike
    simp only [LengthReady, bytes, inside, Remembers, object, Chain.depth, remembered]

end Encapsulation.Packet
