import Encapsulation.Builder
import Encapsulation.Proofs.Access.Cells
import Encapsulation.Proofs.Builder.Outlook

/-!
# Mirrored chains

Two chains mirror each other if they have as many layers and, place by place, the layers are of one
kind, and of one sort wherever either is a sort of the library. Walks and searches go from layer to
layer by kinds and sorts alone, so on chains that mirror each other they meet the same kinds and
stop at the same positions. A walk meets every layer of its chain. A builder, the packet it makes
and the builder that the packet gives back mirror each other.
-/
namespace Encapsulation

/-- Layers of two sorts of chains that are of one kind, and of one sort where either is of a sort of
the library. -/
structure Layered.Counterparts {α β : Type} [Layered α] [Layered β] (layer : α) (other : β) :
    Prop where
  /-- Both are of one kind. -/
  kind : Layered.kind layer = Layered.kind other
  /-- Both are of the same sort of the library, if either is of one. -/
  sort : ∀ wanted : LayerSort, wanted.isLibrary = true →
    (Layered.sort layer = wanted ↔ Layered.sort other = wanted)

/-- A draft and the layer made of it are counterparts. -/
theorem Draft.counterparts_plainFinish (draft : Draft) (payloadLength : Nat) :
    Layered.Counterparts draft (draft.plainFinish payloadLength) := by
  cases draft with
  | ethernet draft => exact ⟨rfl, fun _ _ => Iff.rfl⟩
  | llcSnap header => exact ⟨rfl, fun _ _ => Iff.rfl⟩
  | udp draft => exact ⟨rfl, fun _ _ => Iff.rfl⟩
  | custom layer =>
    refine ⟨rfl, fun wanted library => ?_⟩
    simp only [Layered.sort, Draft.sort, plainFinish, Layer.sort]
    cases layer.overrides <;> cases wanted <;> simp_all [LayerSort.isLibrary]

/-- A layer and the draft that it gives back are counterparts. -/
theorem Layer.counterparts_reopen (layer : Layer) : Layered.Counterparts layer layer.reopen := by
  cases layer with
  | ethernet header pad => exact ⟨rfl, fun _ _ => Iff.rfl⟩
  | llcSnap header => exact ⟨rfl, fun _ _ => Iff.rfl⟩
  | udp header => exact ⟨rfl, fun _ _ => Iff.rfl⟩
  | custom layer =>
    have same := (Draft.counterparts_plainFinish (.custom layer) 0).sort
    exact ⟨rfl, fun wanted library => (same wanted library).symm⟩

namespace Cursor

variable {α : Type}

/-- A walk that is over finds nothing, however often it is asked. -/
theorem advance_over (count : Nat) :
    ((⟨none⟩ : Cursor α).advance count).1 = List.replicate count none := by
  induction count with
  | zero => rfl
  | succ count ih => simp only [advance, next, ih, List.replicate_succ]

/-- A walk finds the chain from each layer inwards, outermost first, and then nothing. -/
theorem advance_start (chain : Chain α) (count : Nat) :
    ((start chain).advance count).1 = (List.range count).map chain.inner? := by
  induction count generalizing chain with
  | zero => rfl
  | succ count ih =>
    have spent : List.replicate count (none : Option (Chain α)) =
        (List.range count).map fun _ => none := by
      rw [List.map_const', List.length_range]
    rw [List.range_succ_eq_map, List.map_cons, List.map_map]
    cases chain with
    | unknown data => exact congrArg (List.cons _) ((advance_over count).trans spent)
    | bare layer => exact congrArg (List.cons _) ((advance_over count).trans spent)
    | wrap layer payload => exact congrArg (List.cons _) (ih payload)

/-- A walk meets some layers, one after another, and is over after the last of them. -/
def Meets (cursor : Cursor α) (layers : List (Chain α)) : Prop :=
  (cursor.advance (layers.length + 1)).1 = layers.map some ++ [none]

/-- A walk that is over meets nothing. -/
theorem meets_over_iff {layers : List (Chain α)} : (⟨none⟩ : Cursor α).Meets layers ↔ layers = [] := by
  rw [Meets, advance_over]
  cases layers with
  | nil => exact iff_of_true rfl rfl
  | cons layer rest =>
    refine iff_of_false (fun same => ?_) (List.cons_ne_nil layer rest)
    cases (List.cons.inj same).1

/-- A walk meets the layer that is next and then those that it meets after it. -/
theorem meets_next_iff {chain : Chain α} {layers : List (Chain α)} :
    (⟨some chain⟩ : Cursor α).Meets layers ↔
      ∃ rest, layers = chain :: rest ∧ (⟨chain.payload?⟩ : Cursor α).Meets rest := by
  cases layers with
  | nil =>
    refine iff_of_false (fun same => ?_) fun ⟨_, same, _⟩ => (List.cons_ne_nil _ _) same.symm
    cases (List.cons.inj same).1
  | cons layer others =>
    constructor
    · intro same
      obtain ⟨first, onward⟩ := List.cons.inj same
      obtain rfl : chain = layer := Option.some.inj first
      exact ⟨others, rfl, onward⟩
    · rintro ⟨rest, same, onward⟩
      obtain ⟨rfl, rfl⟩ := List.cons.inj same
      exact congrArg (List.cons (some layer)) onward

/-- A walk along a chain meets the chain and the payloads in it, and nothing else. -/
theorem meets_start_iff {chain : Chain α} {layers : List (Chain α)} :
    (start chain).Meets layers ↔ layers = chain.walk := by
  unfold start
  induction chain generalizing layers with
  | unknown data | bare layer =>
    simp only [meets_next_iff, Chain.payload?, meets_over_iff, exists_eq_right, Chain.walk_unknown,
      Chain.walk_bare]
  | wrap layer payload ih =>
    have inside : (Chain.wrap layer payload).payload? = some payload := rfl
    rw [meets_next_iff, inside]
    simp only [ih, exists_eq_right, Chain.walk_wrap]

end Cursor

namespace Chain

variable {α β : Type} [Layered α] [Layered β]

/-- Chains whose layers are counterparts, place by place. -/
inductive Mirrors : Chain α → Chain β → Prop where
  /-- Raw data on both sides. -/
  | unknown (data otherData : Bytes) : Mirrors (.unknown data) (.unknown otherData)
  /-- Layers that are counterparts, without payloads. -/
  | bare {layer : α} {other : β} (outermost : Layered.Counterparts layer other) :
    Mirrors (.bare layer) (.bare other)
  /-- Layers that are counterparts, around payloads that mirror each other. -/
  | wrap {layer : α} {other : β} {payload : Chain α} {otherPayload : Chain β}
    (outermost : Layered.Counterparts layer other) (inside : Mirrors payload otherPayload) :
    Mirrors (.wrap layer payload) (.wrap other otherPayload)

namespace Mirrors

variable {left : Chain α} {right : Chain β}

/-- The outermost layers are of one kind. -/
theorem kind_eq (mirrors : left.Mirrors right) : left.kind = right.kind := by
  cases mirrors with
  | unknown data otherData => rfl
  | bare outermost => exact outermost.kind
  | wrap outermost inside => exact outermost.kind

/-- The outermost layers are of the same sort of the library, if either is of one. -/
theorem sort_iff (mirrors : left.Mirrors right) {wanted : LayerSort}
    (library : wanted.isLibrary = true) : left.sort = wanted ↔ right.sort = wanted := by
  cases mirrors with
  | unknown data otherData => exact Iff.rfl
  | bare outermost => exact outermost.sort wanted library
  | wrap outermost inside => exact outermost.sort wanted library

/-- The kinds of the layers are the same, outermost first. -/
theorem kinds_eq (mirrors : left.Mirrors right) : left.kinds = right.kinds := by
  induction mirrors with
  | unknown data otherData => rfl
  | bare outermost => exact congrArg (· :: []) outermost.kind
  | wrap outermost inside ih => exact congrArg₂ List.cons outermost.kind ih

/-- From each position inwards, there are chains on both sides that mirror each other, or on
neither. -/
theorem inner? (mirrors : left.Mirrors right) (position : Nat) :
    (left.inner? position = none ∧ right.inner? position = none) ∨
      ∃ part other, left.inner? position = some part ∧ right.inner? position = some other ∧
        part.Mirrors other := by
  induction mirrors generalizing position with
  | unknown data otherData =>
    cases position with
    | zero => exact .inr ⟨_, _, rfl, rfl, .unknown data otherData⟩
    | succ position => exact .inl ⟨rfl, rfl⟩
  | bare outermost =>
    cases position with
    | zero => exact .inr ⟨_, _, rfl, rfl, .bare outermost⟩
    | succ position => exact .inl ⟨rfl, rfl⟩
  | wrap outermost inside ih =>
    cases position with
    | zero => exact .inr ⟨_, _, rfl, rfl, .wrap outermost inside⟩
    | succ position => exact ih position

/-- A search for what chains that mirror each other have alike stops at one position. -/
theorem find?_eq {property : Chain α → Bool} {otherProperty : Chain β → Bool}
    (mirrors : left.Mirrors right)
    (alike : ∀ (part : Chain α) (other : Chain β), part.Mirrors other →
      property part = otherProperty other) :
    left.find? property = right.find? otherProperty := by
  unfold find?
  induction mirrors with
  | unknown data otherData =>
    simp only [walk_unknown, List.findIdx?_cons, List.findIdx?_nil,
      alike _ _ (.unknown data otherData)]
  | bare outermost =>
    simp only [walk_bare, List.findIdx?_cons, List.findIdx?_nil, alike _ _ (.bare outermost)]
  | wrap outermost inside ih =>
    simp only [walk_wrap, List.findIdx?_cons, alike _ _ (.wrap outermost inside), ih]

/-- The first layer of a kind or of a kind below it stands at one position. -/
theorem firstOf?_eq (mirrors : left.Mirrors right) (wanted : Kind) :
    left.firstOf? wanted = right.firstOf? wanted := by
  refine mirrors.find?_eq fun part other alike => ?_
  rw [alike.kind_eq]

/-- The first layer around a kind or around a kind below it stands at one position. -/
theorem outerOf?_eq (mirrors : left.Mirrors right) (wanted : Kind) :
    left.outerOf? wanted = right.outerOf? wanted := by
  refine mirrors.find?_eq fun part other alike => ?_
  cases alike with
  | unknown data otherData => rfl
  | bare outermost => rfl
  | wrap outermost inside => simp only [payload?, inside.kind_eq]

/-- Both or neither have a layer of a kind or of a kind below it. -/
theorem contains_eq (mirrors : left.Mirrors right) (wanted : Kind) :
    left.contains wanted = right.contains wanted := by
  rw [contains, contains, mirrors.firstOf?_eq]

/-- The first layer of a sort of the library stands at one position. -/
theorem firstOfSort?_eq (mirrors : left.Mirrors right) {wanted : LayerSort}
    (library : wanted.isLibrary = true) :
    left.firstOfSort? wanted = right.firstOfSort? wanted := by
  refine mirrors.find?_eq fun part other alike => ?_
  rw [Bool.eq_iff_iff, beq_iff_eq, beq_iff_eq]
  exact alike.sort_iff library

/-- Walks along chains that mirror each other meet the same kinds, step by step, and are over at the
same time. -/
theorem advance_kinds_eq (mirrors : left.Mirrors right) (count : Nat) :
    ((Cursor.start left).advance count).1.map (Option.map kind) =
      ((Cursor.start right).advance count).1.map (Option.map kind) := by
  rw [Cursor.advance_start, Cursor.advance_start, List.map_map, List.map_map]
  refine List.map_congr_left fun position _ => ?_
  rcases mirrors.inner? position with ⟨spent, otherSpent⟩ | ⟨part, other, found, otherFound, alike⟩
  · simp only [Function.comp_apply, spent, otherSpent, Option.map_none]
  · simp only [Function.comp_apply, found, otherFound, Option.map_some, alike.kind_eq]

end Mirrors

/-- Everything that walks and searches tell of two chains is the same: the kinds that are met, from
the outermost layer to the innermost, and the positions at which searches by kind and by sorts of
the library stop. -/
structure Agrees (left : Chain α) (right : Chain β) : Prop where
  /-- A walk along either chain meets all its layers, outermost first, and is over after them. -/
  met : (Cursor.start left).Meets left.walk ∧ (Cursor.start right).Meets right.walk
  /-- The kinds of the layers, outermost first. -/
  kinds : left.kinds = right.kinds
  /-- The kinds that a walk meets in so many steps. -/
  walks : ∀ count, ((Cursor.start left).advance count).1.map (Option.map kind) =
    ((Cursor.start right).advance count).1.map (Option.map kind)
  /-- The first layer of a kind. -/
  first : ∀ wanted, left.firstOf? wanted = right.firstOf? wanted
  /-- The first layer around a kind. -/
  outer : ∀ wanted, left.outerOf? wanted = right.outerOf? wanted
  /-- Whether there is a layer of a kind. -/
  contained : ∀ wanted, left.contains wanted = right.contains wanted
  /-- The first layer of a sort of the library. -/
  sorts : ∀ wanted : LayerSort, wanted.isLibrary = true →
    left.firstOfSort? wanted = right.firstOfSort? wanted

/-- From each position inwards, there are chains on both sides of which walks and searches tell the
same, or on neither. -/
def AgreesThroughout (left : Chain α) (right : Chain β) : Prop :=
  ∀ position, (left.inner? position = none ∧ right.inner? position = none) ∨
    ∃ part other, left.inner? position = some part ∧ right.inner? position = some other ∧
      part.Agrees other

/-- Walks and searches tell the same of chains that mirror each other. -/
theorem Mirrors.agrees {left : Chain α} {right : Chain β} (mirrors : left.Mirrors right) :
    left.Agrees right where
  met := ⟨Cursor.meets_start_iff.mpr rfl, Cursor.meets_start_iff.mpr rfl⟩
  kinds := mirrors.kinds_eq
  walks := mirrors.advance_kinds_eq
  first := mirrors.firstOf?_eq
  outer := mirrors.outerOf?_eq
  contained := mirrors.contains_eq
  sorts _ library := mirrors.firstOfSort?_eq library

/-- Walks and searches tell the same of chains that mirror each other from every layer inwards. -/
theorem Mirrors.agreesThroughout {left : Chain α} {right : Chain β} (mirrors : left.Mirrors right) :
    left.AgreesThroughout right := by
  intro position
  rcases mirrors.inner? position with none | ⟨part, other, found, otherFound, alike⟩
  · exact .inl none
  · exact .inr ⟨part, other, found, otherFound, alike.agrees⟩

end Chain

/-- A builder and the packet that it makes mirror each other. -/
theorem Builder.mirrors_plainBuild (builder : Builder) :
    Chain.Mirrors builder builder.plainBuild := by
  induction builder with
  | unknown data => exact .unknown data data
  | bare draft => exact .bare (draft.counterparts_plainFinish 0)
  | wrap draft payload ih => exact .wrap (draft.counterparts_plainFinish _) ih

/-- A packet and the builder that it gives back mirror each other. -/
theorem Packet.mirrors_reopen (packet : Packet) : Chain.Mirrors packet packet.reopen := by
  induction packet with
  | unknown data => exact .unknown data data
  | bare layer => exact .bare layer.counterparts_reopen
  | wrap layer payload ih => exact .wrap layer.counterparts_reopen ih

end Encapsulation
