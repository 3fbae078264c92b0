/-
  Where the parts of a sequence stand.

  * `Frame.Has` says which bytes stand at a position of a frame, and what is read there then;
  * `Frame.Places` are parts one after the other, each at its place or where its place points to.
    `places_of_layout`: this is so in every frame that starts with a sequence.
-/
import PacketRelay.Abi.Decoding
import PacketRelay.Proofs.Bytes
import Mathlib.Data.List.Infix

namespace PacketRelay

namespace Abi

/-! ## Bytes at a position -/

namespace Frame

variable {f c : Frame} {i o : Nat} {b b' : Bytes}

/-- The bytes that stand at a position of a frame. -/
def Has (f : Frame) (i : Nat) (b : Bytes) : Prop := b <+: f.bytes.drop i

theorem Has.end_le (h : f.Has i b) (hi : i ≤ f.bytes.length) : i + b.length ≤ f.bytes.length := by
  have hlength := List.IsPrefix.length_le h
  rw [List.length_drop] at hlength
  omega

/-- Where bytes stand, the frame has not ended. -/
theorem Has.start_le (h : f.Has i b) (hb : 0 < b.length) : i ≤ f.bytes.length := by
  have hlength := List.IsPrefix.length_le h
  rw [List.length_drop] at hlength
  omega

theorem Has.first (h : f.Has i (b ++ b')) : f.Has i b := (List.prefix_append b b').trans h

/-- What follows stands behind. -/
theorem Has.rest (h : f.Has i (b ++ b')) : f.Has (i + b.length) b' := by
  have hdrop := List.IsPrefix.drop h b.length
  rwa [List.drop_left, List.drop_drop] at hdrop

theorem Has.slice? (h : f.Has i b) (hi : i ≤ f.bytes.length) :
    Bytes.slice? f.bytes i b.length = some b := by
  rw [Bytes.slice?, if_pos (h.end_le hi), ← List.prefix_iff_eq_take.1 h]

theorem Has.word? (h : f.Has i b) (hb : b.length = 32) : f.word? i = some b := by
  rw [Frame.word?, ← hb]
  exact h.slice? (h.start_le (by omega))

/-- An offset or a length is read from its word. -/
theorem Has.offset? (h : f.Has i (Bytes.ofNat 32 o)) (ho : o < 1 <<< 64) : f.offset? i = some o := by
  have hnat : Bytes.toNat (Bytes.ofNat 32 o) = o := Bytes.toNat_ofNat (by omega)
  rw [Frame.offset?, h.word? (Bytes.length_ofNat 32 o)]
  simp only [Option.bind_eq_bind, Option.bind_some, hnat, if_pos ho]

/-- The frame inside another one that starts at an offset. -/
def inside (f : Frame) (o : Nat) : Frame := ⟨f.bytes.drop o, f.depth + 1⟩

theorem child?_eq_inside (hd : f.depth < depthLimit) (ho : o ≤ f.bytes.length) :
    f.child? o = some (f.inside o) :=
  if_pos ⟨hd, ho⟩

theorem has_inside : (f.inside o).Has i b ↔ f.Has (o + i) b := by
  rw [Has, Has, inside, List.drop_drop]

theorem length_inside_le : (f.inside o).bytes.length ≤ f.bytes.length := by
  rw [inside, List.length_drop]
  exact Nat.sub_le _ _

/-- Bytes that are stored away from a place, which holds their offset. -/
structure Moved (f : Frame) (i : Nat) (b : Bytes) (o : Nat) : Prop where
  place : f.Has i (Bytes.ofNat 32 o)
  behind : i + 32 ≤ o
  inFrame : o ≤ f.bytes.length
  contents : f.Has o b

theorem Moved.indirect? (h : f.Moved i b o) (hd : f.depth < depthLimit)
    (hsize : f.bytes.length < 1 <<< 64) : f.indirect? i = some (f.inside o) := by
  rw [Frame.indirect?, h.place.offset? (Nat.lt_of_le_of_lt h.inFrame hsize)]
  exact child?_eq_inside hd h.inFrame

theorem Moved.has_inside (h : f.Moved i b o) : (f.inside o).Has 0 b := Frame.has_inside.2 h.contents

/-! ## Parts -/

/-- A part at its place, or where its place points to. -/
def Place (f : Frame) (i : Nat) : Part → Prop
  | .inPlace b => f.Has i b
  | .moved b => ∃ o, f.Moved i b o

/-- Parts one after the other. -/
def Places (f : Frame) (i : Nat) : List Part → Prop
  | [] => True
  | p :: rest => f.Place i p ∧ f.Places (i + p.placeSize) rest

theorem places_of_has {parts : List Part} (hplaces : f.Has i (Part.places o parts))
    (hcontents : f.Has o (Part.contents parts)) (hbehind : i + Part.placesSize parts ≤ o)
    (ho : o ≤ f.bytes.length) : f.Places i parts := by
  induction parts generalizing i o with
  | nil => trivial
  | cons p rest ih =>
    rw [Part.placesSize, ← Nat.add_assoc] at hbehind
    cases p with
    | inPlace b => exact ⟨hplaces.first, ih hplaces.rest hcontents hbehind ho⟩
    | moved b =>
      have hrest := hplaces.rest
      rw [Bytes.length_ofNat] at hrest
      have hplace : i + 32 ≤ o := (Nat.le_add_right _ _).trans hbehind
      have hend : i + 32 + Part.placesSize rest ≤ o + b.length := hbehind.trans (Nat.le_add_right _ _)
      exact ⟨⟨o, hplaces.first, hplace, ho, hcontents.first⟩,
        ih hrest hcontents.rest hend (hcontents.first.end_le ho)⟩

end Frame

namespace Part

theorem length_places (o : Nat) (parts : List Part) : (places o parts).length = placesSize parts := by
  induction parts generalizing o with
  | nil => rfl
  | cons p rest ih =>
    cases p with
    | inPlace b => rw [places, List.length_append, ih, placesSize, placeSize]
    | moved b => rw [places, List.length_append, Bytes.length_ofNat, ih, placesSize, placeSize]

theorem length_layout (parts : List Part) :
    (layout parts).length = placesSize parts + (contents parts).length := by
  rw [layout, List.length_append, length_places]

/-- Parts that all stand at their places. -/
theorem contents_eq_nil {parts : List Part} (h : ∀ p ∈ parts, ∃ b, p = inPlace b) :
    contents parts = [] := by
  induction parts with
  | nil => rfl
  | cons p rest ih =>
    obtain ⟨⟨b, rfl⟩, hrest⟩ := List.forall_mem_cons.1 h
    exact ih hrest

/-- The bytes of a part, with the one word that points to it. -/
def size : Part → Nat
  | inPlace b => b.length
  | moved b => 32 + b.length

/-- A sequence has the bytes of its parts. -/
theorem length_layout_eq_sum (parts : List Part) : (layout parts).length = (parts.map size).sum := by
  rw [length_layout]
  induction parts with
  | nil => rfl
  | cons p rest ih =>
    rw [List.map_cons, List.sum_cons, ← ih]
    cases p with
    | inPlace b => exact Nat.add_assoc ..
    | moved b =>
      rw [placesSize, contents, placeSize, size, List.length_append]
      omega

end Part

/-- **The parts of a sequence** stand in every frame that starts with it. -/
theorem Frame.places_of_layout {f : Frame} {parts : List Part} (h : f.Has 0 (Part.layout parts)) :
    f.Places 0 parts := by
  have hcontents := h.rest
  rw [Nat.zero_add, Part.length_places] at hcontents
  have hlength := h.first.end_le (Nat.zero_le _)
  rw [Nat.zero_add, Part.length_places] at hlength
  exact places_of_has h.first hcontents (Nat.le_of_eq (Nat.zero_add _)) hlength

/-- A part and all that belongs to it is in the frame. -/
theorem Frame.Place.end_le {f : Frame} {i : Nat} {p : Part} (h : f.Place i p) (hp : 0 < p.size) :
    i + p.size ≤ f.bytes.length := by
  cases p with
  | inPlace b =>
    have hb : f.Has i b := h
    exact hb.end_le (hb.start_le hp)
  | moved b =>
    obtain ⟨o, hmoved⟩ := h
    have hend := hmoved.contents.end_le hmoved.inFrame
    have hbehind := hmoved.behind
    rw [Part.size]
    omega

/-- Items are read one after the other if each of them is read from its part. -/
theorem repeatRead_of_places {α : Type} {f : Frame} {step : Nat → Option (α × Nat)} {part : α → Part}
    {n i : Nat} (items : { items : List α // items.length = n })
    (hstep : ∀ a ∈ items.val, ∀ j, f.Place j (part a) → step j = some (a, j + (part a).placeSize))
    (hplaces : f.Places i (items.val.map part)) :
    repeatRead step n i = some (items, i + Part.placesSize (items.val.map part)) := by
  obtain ⟨items, rfl⟩ := items
  induction items generalizing i with
  | nil => rfl
  | cons a rest ih =>
    obtain ⟨hfirst, hrest⟩ := hplaces
    have hread := ih (fun b hb => hstep b (List.mem_cons_of_mem a hb)) hrest
    change repeatRead step (rest.length + 1) i = _
    rw [repeatRead, hstep a List.mem_cons_self i hfirst]
    simp only [Option.bind_eq_bind, Option.bind_some, hread, Option.pure_def]
    rw [Nat.add_assoc]
    rfl

end Abi

end PacketRelay
