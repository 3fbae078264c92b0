/-
  Encoded values are read again.

  * `isProper` are the types of values that contracts have, `levels` the frames that reading a value
    opens;
  * `reads_encode`: a value is read from its part, wherever this stands;
  * `decodeArguments_encodeAll`: arguments are read from their encoding, within the limits on depth
    and size;
  * `decodeCanonical_encodeAll`: what accepts nothing but encodings reads these as well.
-/
import PacketRelay.Proofs.Abi.Decoding
import PacketRelay.Proofs.Abi.Layout

namespace PacketRelay.AbiType

open Abi

/-- Texts are read like byte strings. -/
theorem decode_string (f : Frame) (i : Nat) : decode .string f i = decode .bytes f i := by
  rw [decode, decode]
  rfl

/-! ## Types with values that take room -/

mutual

/-- Whether contracts have values of a type: no size is zero and nothing is wider than a word. -/
def isProper : AbiType → Bool
  | .uint bits | .int bits => bits ≤ 256
  | .fixedBytes size => 0 < size && size ≤ 32
  | .array element => isProper element
  | .fixedArray size element => 0 < size && isProper element
  | .tuple _ components => !components.isEmpty && areProper components
  | _ => true

/-- Whether contracts have values of all the types. -/
def areProper : List AbiType → Bool
  | [] => true
  | t :: rest => isProper t && areProper rest

end

mutual

/-- How many frames are opened inside each other to read a value. -/
def levels : AbiType → Nat
  | .bytes | .string => 1
  | .array element => 2 + levels element
  | .fixedArray _ element => 1 + levels element
  | .tuple _ components => 1 + maxLevels components
  | _ => 0

/-- How many frames are opened inside each other to read values. -/
def maxLevels : List AbiType → Nat
  | [] => 0
  | t :: rest => max (levels t) (maxLevels rest)

end

mutual

theorem minimumWords_pos : ∀ t : AbiType, isProper t = true → 0 < minimumWords t
  | .fixedArray size element, h => by
    simp only [isProper, Bool.and_eq_true, decide_eq_true_eq] at h
    exact Nat.mul_pos h.1 (minimumWords_pos element h.2)
  | .tuple _ [], h => by cases h
  | .tuple _ (t :: rest), h => by
    simp only [isProper, areProper, Bool.and_eq_true] at h
    exact Nat.add_pos_left (minimumWords_pos t h.2.1) _
  | .uint _, _ | .int _, _ | .bool, _ | .address, _ | .fixedBytes _, _ | .function, _ | .bytes, _
  | .string, _ | .array _, _ => Nat.one_pos

end

mutual

theorem isHollow_of_isProper : ∀ t : AbiType, isProper t = true → isHollow t = false
  | .array element, h => isHollow_of_isProper element h
  | .fixedArray size element, h => by
    simp only [isProper, Bool.and_eq_true] at h
    exact isHollow_of_isProper element h.2
  | .tuple _ [], h => by cases h
  | .tuple _ (t :: rest), h => by
    simp only [isProper, areProper, Bool.and_eq_true] at h
    rw [isHollow, areHollow, isHollow_of_isProper t h.2.1, Bool.false_and]
  | .uint _, _ | .int _, _ | .bool, _ | .address, _ | .fixedBytes _, _ | .function, _ | .bytes, _
  | .string, _ => rfl

end

/-- Types of values that contracts have are read as they are. -/
theorem collapsed_of_isProper {t : AbiType} (h : isProper t = true) : collapsed t = t := by
  unfold collapsed
  rw [if_neg (ne_true_of_eq_false (isHollow_of_isProper t h))]

theorem map_collapsed {ts : List AbiType} (h : areProper ts = true) : ts.map collapsed = ts := by
  induction ts with
  | nil => rfl
  | cons t rest ih =>
    simp only [areProper, Bool.and_eq_true] at h
    rw [List.map_cons, collapsed_of_isProper h.1, ih h.2]

/-! ## How long encodings are -/

theorem length_padded {b : Bytes} (h : 0 < b.length ∧ b.length ≤ 32) : (padded b).length = 32 := by
  rw [padded, List.length_append, List.length_replicate]
  omega

theorem length_sized (b : Bytes) : 32 ≤ (sized b).length := by
  rw [sized, List.length_append, Bytes.length_ofNat]
  exact Nat.le_add_right _ _

/-- The part of a value. -/
def part (t : AbiType) (v : t.Value) : Part := Part.of (isDynamic t) (encode t v)

theorem part_inPlace {t : AbiType} (h : isDynamic t = false) (v : t.Value) :
    part t v = .inPlace (encode t v) := by
  rw [part, h]
  rfl

theorem length_encode_le (t : AbiType) (v : t.Value) : (encode t v).length ≤ (part t v).size := by
  unfold part Part.of
  split
  · exact Nat.le_add_left _ _
  · exact Nat.le_refl _

theorem length_items {α : Type} (items : List α) (part : α → Part) {m : Nat}
    (h : ∀ v ∈ items, m ≤ (part v).size) :
    items.length * m ≤ (Part.layout (items.map part)).length := by
  rw [Part.length_layout_eq_sum]
  induction items with
  | nil => exact Nat.le_of_eq (Nat.zero_mul m)
  | cons v items ih =>
    obtain ⟨hfirst, hrest⟩ := List.forall_mem_cons.1 h
    rw [List.length_cons, Nat.succ_mul, Nat.add_comm]
    exact Nat.add_le_add hfirst (ih hrest)

mutual

/-- **A value takes as many words as its type says** at least. -/
theorem minimumWords_le : ∀ (t : AbiType) (v : t.Value), isProper t = true →
    32 * minimumWords t ≤ (encode t v).length
  | .uint _, n, _ => Nat.le_of_eq (Bytes.length_ofNat 32 n).symm
  | .int _, _, _ | .bool, _, _ | .address, _, _ => Nat.le_of_eq (Bytes.length_ofNat 32 _).symm
  | .fixedBytes size, b, h => by
    simp only [isProper, Bool.and_eq_true, decide_eq_true_eq] at h
    have hb : (FixedBytes.bytes b).length = size := FixedBytes.size b
    exact Nat.le_of_eq (length_padded (by omega)).symm
  | .function, b, _ => by
    have hb : (FixedBytes.bytes b).length = 24 := FixedBytes.size b
    exact Nat.le_of_eq (length_padded (by omega)).symm
  | .bytes, b, _ | .string, b, _ => length_sized b
  | .array element, items, _ => by
    rw [encode, List.length_append, Bytes.length_ofNat]
    exact Nat.le_add_right _ _
  | .fixedArray size element, items, h => by
    simp only [isProper, Bool.and_eq_true] at h
    have hitems := length_items items.val (part element)
      fun v _ => (minimumWords_le element v h.2).trans (length_encode_le element v)
    have hsize : items.val.length = size := items.property
    rw [hsize] at hitems
    rw [minimumWords, Nat.mul_left_comm]
    exact hitems
  | .tuple _ components, values, h => by
    simp only [isProper, Bool.and_eq_true] at h
    rw [minimumWords, encode, Part.length_layout_eq_sum]
    exact sumMinimumWords_le components values h.2

theorem sumMinimumWords_le : ∀ (ts : List AbiType) (values : Values ts), areProper ts = true →
    32 * sumMinimumWords ts ≤ ((parts ts values).map Part.size).sum
  | [], _, _ => Nat.zero_le _
  | t :: rest, (v, values), h => by
    simp only [areProper, Bool.and_eq_true] at h
    have hfirst := (minimumWords_le t v h.1).trans (length_encode_le t v)
    have hrest := sumMinimumWords_le rest values h.2
    rw [sumMinimumWords, parts, List.map_cons, List.sum_cons, Nat.mul_add]
    exact Nat.add_le_add hfirst hrest

end

theorem minimumWords_le_size {t : AbiType} (v : t.Value) (h : isProper t = true) :
    32 * minimumWords t ≤ (part t v).size :=
  (minimumWords_le t v h).trans (length_encode_le t v)

theorem size_pos {t : AbiType} (v : t.Value) (h : isProper t = true) : 0 < (part t v).size := by
  have hwords := minimumWords_pos t h
  have hsize := minimumWords_le_size v h
  omega

/-! ## Words -/

theorem shiftLeft_le {m n : Nat} (h : m ≤ n) : 1 <<< m ≤ 1 <<< n := by
  rw [Nat.one_shiftLeft, Nat.one_shiftLeft]
  exact Nat.pow_le_pow_right Nat.two_pos h

theorem signed_intWord {n : Int} (h : -(1 <<< 255 : Nat) ≤ n ∧ n < (1 <<< 255 : Nat)) :
    signed (Bytes.toNat (intWord n)) = n := by
  have hmod : ((1 <<< 256 : Nat) : Int) = 2 ^ 256 := rfl
  have hword : (n % 2 ^ 256).toNat < 256 ^ 32 := by omega
  rw [intWord, hmod, Bytes.toNat_ofNat hword, signed, hmod]
  split <;> omega

/-! ## Values -/

/-- A frame in which a value can be read: `n` more frames may be opened, and offsets fit. -/
structure Allows (f : Frame) (n : Nat) : Prop where
  depth : f.depth + n ≤ depthLimit
  size : f.bytes.length < 1 <<< 64

namespace Allows

variable {f : Frame} {n m i o : Nat} {b : Bytes}

theorem mono (h : Allows f n) (hm : m ≤ n) : Allows f m :=
  ⟨(Nat.add_le_add_left hm _).trans h.depth, h.size⟩

/-- The frame inside takes one of them. -/
theorem inside (h : Allows f (1 + n)) (o : Nat) : Allows (f.inside o) n where
  depth := (Nat.add_assoc f.depth 1 n).trans_le h.depth
  size := Nat.lt_of_le_of_lt Frame.length_inside_le h.size

theorem child? (h : Allows f (1 + n)) (ho : o ≤ f.bytes.length) : f.child? o = some (f.inside o) := by
  have hdepth := h.depth
  exact Frame.child?_eq_inside (by omega) ho

theorem indirect? (h : Allows f (1 + n)) (hb : f.Moved i b o) :
    f.indirect? i = some (f.inside o) := by
  have hdepth := h.depth
  exact hb.indirect? (by omega) h.size

end Allows

/-- A value is read from its part, wherever this stands. -/
def Reads (t : AbiType) (v : t.Value) : Prop :=
  ∀ (f : Frame) (i : Nat), Allows f (levels t) → f.Place i (part t v) →
    decode t f i = some (v, i + (part t v).placeSize)

/-- Values are read from their parts. -/
def ReadsAll (ts : List AbiType) (values : Values ts) : Prop :=
  ∀ (f : Frame) (i : Nat), Allows f (maxLevels ts) → f.Places i (parts ts values) →
    decodeAll ts f i = some (values, i + Part.placesSize (parts ts values))

/-! ### Words -/

theorem reads_uint {bits n : Nat} (ht : isProper (.uint bits) = true)
    (hfits : fits (.uint bits) n = true) : Reads (.uint bits) n := by
  intro f i _ h
  simp only [isProper, decide_eq_true_eq] at ht
  simp only [fits, decide_eq_true_eq] at hfits
  have hword : f.Has i (Bytes.ofNat 32 n) := h
  have hsize : (part (.uint bits) n).placeSize = 32 := Bytes.length_ofNat 32 n
  have hnat : Bytes.toNat (Bytes.ofNat 32 n) = n :=
    Bytes.toNat_ofNat (Nat.lt_of_lt_of_le hfits (shiftLeft_le ht))
  rw [decode, hword.word? (Bytes.length_ofNat 32 n), hsize, Option.bind_eq_bind, Option.bind_some,
    hnat]
  rfl

theorem reads_int {bits : Nat} {n : Int} (ht : isProper (.int bits) = true)
    (hfits : fits (.int bits) n = true) : Reads (.int bits) n := by
  intro f i _ h
  simp only [isProper, decide_eq_true_eq] at ht
  simp only [fits, decide_eq_true_eq] at hfits
  have hword : f.Has i (intWord n) := h
  have hlength : (intWord n).length = 32 := Bytes.length_ofNat 32 _
  have hsize : (part (.int bits) n).placeSize = 32 := hlength
  have hbound : 1 <<< (bits - 1) ≤ 1 <<< 255 := shiftLeft_le (by omega)
  have hnat : signed (Bytes.toNat (intWord n)) = n := signed_intWord (by omega)
  rw [decode, hword.word? hlength, hsize, Option.bind_eq_bind, Option.bind_some, hnat]
  rfl

theorem reads_bool (b : Bool) : Reads .bool b := by
  intro f i _ h
  have hword : f.Has i (Bytes.ofNat 32 b.toNat) := h
  have hsize : (part .bool b).placeSize = 32 := Bytes.length_ofNat 32 b.toNat
  have hlt : b.toNat < 256 ^ 32 := (Bool.toNat_lt b).trans (by decide)
  rw [decode, hword.word? (Bytes.length_ofNat 32 _), hsize, Option.bind_eq_bind, Option.bind_some,
    Bytes.toNat_ofNat hlt]
  cases b <;> rfl

theorem reads_address (a : Address) : Reads .address a := by
  intro f i _ h
  have hword : f.Has i (Bytes.ofNat 32 a.toNat) := h
  have hsize : (part .address a).placeSize = 32 := Bytes.length_ofNat 32 a.toNat
  have hlt : a.toNat < 256 ^ 20 := (Bytes.toNat_lt a.bytes).trans_eq (congrArg (256 ^ ·) a.size)
  rw [decode, hword.word? (Bytes.length_ofNat 32 _), hsize, Option.bind_eq_bind, Option.bind_some,
    Bytes.toNat_ofNat (by omega), FixedBytes.ofNat_toNat]
  rfl

theorem leading?_padded {f : Frame} {i n : Nat} (b : FixedBytes n) (hn : 0 < n ∧ n ≤ 32)
    (h : f.Has i (padded b.bytes)) : f.leading? i n = some b := by
  have hsize := b.size
  have htake : (padded b.bytes).take n = b.bytes := by rw [padded, List.take_left' hsize]
  rw [Frame.leading?, h.word? (length_padded (by omega))]
  simp only [Option.bind_eq_bind, Option.bind_some, htake, FixedBytes.ofBytes?_bytes]

theorem reads_fixedBytes {n : Nat} (b : FixedBytes n) (ht : isProper (.fixedBytes n) = true) :
    Reads (.fixedBytes n) b := by
  intro f i _ h
  simp only [isProper, Bool.and_eq_true, decide_eq_true_eq] at ht
  have hsize : (part (.fixedBytes n) b).placeSize = 32 := length_padded (by rwa [b.size])
  rw [decode, leading?_padded b ht h, hsize]
  rfl

theorem reads_function (b : FixedBytes 24) : Reads .function b := by
  intro f i _ h
  have hsize : (part .function b).placeSize = 32 :=
    length_padded (by rw [b.size]; exact ⟨by decide, by decide⟩)
  rw [decode, leading?_padded b (by decide) h, hsize]
  rfl

/-! ### Byte strings -/

/-- A byte string is read from where it has been moved to. -/
theorem sized?_moved {f : Frame} {i o : Nat} {b : Bytes} (hf : Allows f 1)
    (h : f.Moved i (sized b) o) : f.sized? i = some b := by
  have hlength : (f.inside o).Has 0 (Bytes.ofNat 32 b.length) := h.has_inside.first
  have hcontents := h.has_inside.rest
  rw [Bytes.length_ofNat, padded] at hcontents
  have hstart : 32 ≤ (f.inside o).bytes.length := by
    have hend := hlength.end_le (Nat.zero_le _)
    rwa [Nat.zero_add, Bytes.length_ofNat] at hend
  have hend := hcontents.first.end_le hstart
  have hsize := (hf.inside (n := 0) o).size
  rw [Frame.sized?, hf.indirect? (n := 0) h]
  simp only [Option.bind_eq_bind, Option.bind_some, hlength.offset? (by omega)]
  exact hcontents.first.slice? hstart

theorem reads_bytes (b : Bytes) : Reads .bytes b := by
  intro f i hf h
  obtain ⟨o, hmoved⟩ := h
  simp only [decode, sized?_moved hf hmoved]
  rfl

theorem reads_string (b : Bytes) : Reads .string b := by
  intro f i hf h
  rw [decode_string]
  exact reads_bytes b f i hf h

/-! ### Arrays -/

/-- The items of an array are read from a frame that starts with them. -/
theorem repeatRead_layout {element : AbiType} {f : Frame} {n : Nat}
    (items : { items : List element.Value // items.length = n })
    (h : ∀ v ∈ items.val, Reads element v) (hf : Allows f (levels element))
    (hlayout : f.Has 0 (Part.layout (items.val.map (part element)))) :
    repeatRead (decode element f) n 0 =
      some (items, Part.placesSize (items.val.map (part element))) := by
  have hread := repeatRead_of_places items (fun v hv j => h v hv f j hf)
    (Frame.places_of_layout hlayout)
  rwa [Nat.zero_add] at hread

/-- As many words are left as the items of an array take at least. -/
theorem canHold_of_has {element : AbiType} {c : Frame} {items : List element.Value}
    (ht : isProper element = true) (h : c.Has 32 (Part.layout (items.map (part element))))
    (hstart : 32 ≤ c.bytes.length) : canHold element items.length (c.wordsFrom 32) = true := by
  have hpos := minimumWords_pos element ht
  have hitems := length_items items (part element)
    fun v _ => minimumWords_le_size v ht
  have hend := h.end_le hstart
  have hwords : items.length * minimumWords element ≤ c.wordsFrom 32 := by
    rw [Frame.wordsFrom, Nat.le_div_iff_mul_le (by decide), Nat.mul_assoc, Nat.mul_comm _ 32]
    omega
  simp only [canHold, Bool.and_eq_true, decide_eq_true_eq, Bool.or_eq_true, bne_iff_ne]
  exact ⟨hwords, .inl (Nat.ne_of_gt hpos)⟩

theorem reads_array {element : AbiType} {items : List element.Value}
    (ht : isProper element = true) (h : ∀ v ∈ items, Reads element v) :
    Reads (.array element) items := by
  intro f i hf hplace
  obtain ⟨o, hmoved⟩ : ∃ o, f.Moved i (Bytes.ofNat 32 items.length ++
    Part.layout (items.map (part element))) o := hplace
  have hf : Allows f (1 + (1 + levels element)) := hf.mono (by rw [levels]; omega)
  have hc := hf.inside o
  have hcount : (f.inside o).Has 0 (Bytes.ofNat 32 items.length) := hmoved.has_inside.first
  have hlayout := hmoved.has_inside.rest
  rw [Bytes.length_ofNat, Nat.zero_add] at hlayout
  have hstart : 32 ≤ (f.inside o).bytes.length := by
    have hend := hcount.end_le (Nat.zero_le _)
    rwa [Nat.zero_add, Bytes.length_ofNat] at hend
  have hlength : items.length < 1 <<< 64 := by
    have hitems := length_items items (part element) fun v _ => size_pos v ht
    have hend := hlayout.end_le hstart
    have hsize := hc.size
    omega
  have hbody := repeatRead_layout ⟨items, rfl⟩ h (hc.inside 32) (Frame.has_inside.2 hlayout)
  have hhold := canHold_of_has ht hlayout hstart
  rw [decode, hf.indirect? hmoved, Option.bind_eq_bind, Option.bind_some, hcount.offset? hlength,
    Option.bind_eq_bind, Option.bind_some]
  by_cases hzero : items.length = 0
  · obtain rfl := List.eq_nil_of_length_eq_zero hzero
    rfl
  · rw [if_neg hzero, if_pos hhold, hc.child? hstart, Option.bind_eq_bind, Option.bind_some, hbody]
    rfl

/-- Parts of values that are not dynamic stand at their places. -/
theorem length_layout_static {element : AbiType} (h : isDynamic element = false)
    (items : List element.Value) : (Part.layout (items.map (part element))).length =
      Part.placesSize (items.map (part element)) := by
  have hcontents : Part.contents (items.map (part element)) = [] :=
    Part.contents_eq_nil (List.forall_mem_map.2 fun v _ => ⟨_, part_inPlace h v⟩)
  rw [Part.length_layout, hcontents]
  rfl

/-- What consists of other values is read from its part, where these stand one after the other. -/
theorem readInner_layout {α : Type} {f : Frame} {i n : Nat} {a : α} {dynamic : Bool}
    {ps : List Part} {read : Frame → Option (α × Nat)} (hf : Allows f (1 + n))
    (hstart : i ≤ f.bytes.length)
    (hstatic : dynamic = false → (Part.layout ps).length = Part.placesSize ps)
    (hread : ∀ c, Allows c n → c.Has 0 (Part.layout ps) → read c = some (a, Part.placesSize ps))
    (hplace : f.Place i (Part.of dynamic (Part.layout ps))) :
    f.readInner dynamic i read = some (a, i + (Part.of dynamic (Part.layout ps)).placeSize) := by
  cases dynamic with
  | true =>
    obtain ⟨o, hmoved⟩ := hplace
    exact Frame.readInner_moved (hf.indirect? hmoved) (hread _ (hf.inside o) hmoved.has_inside)
  | false =>
    have hlayout : f.Has i (Part.layout ps) := hplace
    have hsize : (Part.of false (Part.layout ps)).placeSize = Part.placesSize ps := hstatic rfl
    rw [hsize]
    exact Frame.readInner_inPlace (hf.child? hstart)
      (hread _ (hf.inside i) (Frame.has_inside.2 hlayout))

theorem reads_fixedArray {element : AbiType} {n : Nat}
    {items : { items : List element.Value // items.length = n }}
    (ht : isProper (.fixedArray n element) = true) (h : ∀ v ∈ items.val, Reads element v) :
    Reads (.fixedArray n element) items := by
  intro f i hf hplace
  have hend := hplace.end_le (size_pos _ ht)
  rw [levels] at hf
  rw [decode_fixedArray]
  exact readInner_layout hf (by omega) (fun hstatic => length_layout_static hstatic items.val)
    (fun _ hc hlayout => repeatRead_layout _ h hc hlayout) hplace

/-! ### Tuples -/

theorem contents_parts : ∀ (ts : List AbiType) (values : Values ts), anyDynamic ts = false →
    Part.contents (parts ts values) = []
  | [], _, _ => rfl
  | t :: rest, (v, values), h => by
    rw [anyDynamic, Bool.or_eq_false_iff] at h
    have hparts : parts (t :: rest) (v, values) = part t v :: parts rest values := rfl
    rw [hparts, part_inPlace h.1, Part.contents, contents_parts rest values h.2]

theorem length_parts_static {ts : List AbiType} (h : anyDynamic ts = false) (values : Values ts) :
    (Part.layout (parts ts values)).length = Part.placesSize (parts ts values) := by
  rw [Part.length_layout, contents_parts ts values h]
  rfl

theorem decodeAll_layout {ts : List AbiType} {values : Values ts} {f : Frame}
    (h : ReadsAll ts values) (hf : Allows f (maxLevels ts))
    (hlayout : f.Has 0 (Part.layout (parts ts values))) :
    decodeAll ts f 0 = some (values, Part.placesSize (parts ts values)) := by
  have hread := h f 0 hf (Frame.places_of_layout hlayout)
  rwa [Nat.zero_add] at hread

theorem reads_tuple {names : List String} {components : List AbiType} {values : Values components}
    (ht : isProper (.tuple names components) = true) (h : ReadsAll components values) :
    Reads (.tuple names components) values := by
  intro f i hf hplace
  have hend := hplace.end_le (size_pos _ ht)
  rw [levels] at hf
  rw [decode_tuple]
  exact readInner_layout hf (by omega) (fun hstatic => length_parts_static hstatic values)
    (fun _ hc hlayout => decodeAll_layout h hc hlayout) hplace

theorem readsAll_cons {t : AbiType} {rest : List AbiType} {v : t.Value} {values : Values rest}
    (hfirst : Reads t v) (hrest : ReadsAll rest values) : ReadsAll (t :: rest) (v, values) := by
  intro f i hf hplaces
  obtain ⟨hplace, hplaces⟩ : f.Place i (part t v) ∧
    f.Places (i + (part t v).placeSize) (parts rest values) := hplaces
  rw [maxLevels] at hf
  have hread := hrest f _ (hf.mono (Nat.le_max_right _ _)) hplaces
  rw [decodeAll, hfirst f i (hf.mono (Nat.le_max_left _ _)) hplace, Option.bind_eq_bind,
    Option.bind_some]
  simp only [hread, Option.bind_eq_bind, Option.bind_some]
  rw [Nat.add_assoc]
  rfl

/-! ### All values -/

mutual

/-- **A value that fits its type is read from its part.** -/
theorem reads_encode : ∀ (t : AbiType) (v : t.Value), isProper t = true → fits t v = true →
    Reads t v
  | .uint _, _, ht, hv => reads_uint ht hv
  | .int _, _, ht, hv => reads_int ht hv
  | .bool, b, _, _ => reads_bool b
  | .address, a, _, _ => reads_address a
  | .fixedBytes _, b, ht, _ => reads_fixedBytes b ht
  | .function, b, _, _ => reads_function b
  | .bytes, b, _, _ => reads_bytes b
  | .string, b, _, _ => reads_string b
  | .array element, items, ht, hv => by
    have hitems := List.all_eq_true.1 hv
    exact reads_array ht fun v hmem => reads_encode element v ht (hitems v hmem)
  | .fixedArray size element, items, ht, hv => by
    have hitems := List.all_eq_true.1 hv
    have helement : isProper element = true := by
      simp only [isProper, Bool.and_eq_true] at ht
      exact ht.2
    exact reads_fixedArray ht fun v hmem => reads_encode element v helement (hitems v hmem)
  | .tuple _ components, values, ht, hv => by
    have hcomponents : areProper components = true := by
      simp only [isProper, Bool.and_eq_true] at ht
      exact ht.2
    exact reads_tuple ht (readsAll_encode components values hcomponents hv)

theorem readsAll_encode : ∀ (ts : List AbiType) (values : Values ts), areProper ts = true →
    fitAll ts values = true → ReadsAll ts values
  | [], _, _, _ => fun _ _ _ _ => rfl
  | t :: rest, (v, values), ht, hv => by
    simp only [areProper, Bool.and_eq_true] at ht
    simp only [fitAll, Bool.and_eq_true] at hv
    exact readsAll_cons (reads_encode t v ht.1 hv.1) (readsAll_encode rest values ht.2 hv.2)

end

/-! ## Arguments -/

/-- The limits on arguments: no type needs more frames or room than there may be. -/
def withinLimits (ts : List AbiType) : Bool :=
  maxLevels ts ≤ depthLimit && ts.all fun t => t.cells ≤ cellLimit

theorem decodeArgumentsFrom_places : ∀ (ts : List AbiType) (values : Values ts) {f : Frame} {i : Nat},
    areProper ts = true → fitAll ts values = true → (∀ t ∈ ts, t.cells ≤ cellLimit) →
    Allows f (maxLevels ts) → f.Places i (parts ts values) →
    decodeArgumentsFrom ts f i = some values
  | [], _, _, _, _, _, _, _, _ => rfl
  | t :: rest, (v, values), f, i, ht, hv, hcells, hf, hplaces => by
    simp only [areProper, Bool.and_eq_true] at ht
    simp only [fitAll, Bool.and_eq_true] at hv
    obtain ⟨hcells, hothers⟩ := List.forall_mem_cons.1 hcells
    obtain ⟨hplace, hplaces⟩ : f.Place i (part t v) ∧
      f.Places (i + (part t v).placeSize) (parts rest values) := hplaces
    rw [maxLevels] at hf
    have hwords : t.minimumWords ≤ f.wordsFrom i := by
      have hend := hplace.end_le (size_pos v ht.1)
      have hsize := minimumWords_le_size v ht.1
      rw [Frame.wordsFrom, Nat.le_div_iff_mul_le (by decide)]
      omega
    have hfirst := reads_encode t v ht.1 hv.1 f i (hf.mono (Nat.le_max_left _ _)) hplace
    have hrest := decodeArgumentsFrom_places rest values ht.2 hv.2 hothers
      (hf.mono (Nat.le_max_right _ _)) hplaces
    rw [decodeArgumentsFrom, if_neg (by omega), hfirst, Option.bind_eq_bind, Option.bind_some]
    simp only [hrest, Option.bind_eq_bind, Option.bind_some]
    rfl

/-- **Arguments are read from their encoding**, if they fit their types and these are within the
    limits. -/
theorem decodeArguments_encodeAll {ts : List AbiType} {values : Values ts} (ht : areProper ts = true)
    (hv : fitAll ts values = true) (hlimits : withinLimits ts = true)
    (hsize : (encodeAll ts values).length < 1 <<< 64) :
    decodeArguments ts (encodeAll ts values) = some values := by
  simp only [withinLimits, Bool.and_eq_true, decide_eq_true_eq, List.all_eq_true] at hlimits
  refine decodeArgumentsFrom_places ts values ht hv hlimits.2 ⟨?_, hsize⟩
    (Frame.places_of_layout (List.prefix_refl _))
  rw [Nat.zero_add]
  exact hlimits.1

/-! ## Canonical data -/

/-- **An encoding is read as canonical**, if the values fit their types and these are not nested too
    deeply. -/
theorem decodeCanonical_encodeAll {ts : List AbiType} {values : Values ts} (ht : areProper ts = true)
    (hv : fitAll ts values = true) (hlevels : maxLevels ts ≤ depthLimit)
    (hsize : (encodeAll ts values).length < 1 <<< 64) :
    decodeCanonical ts (encodeAll ts values) = some values := by
  have hf : Allows ⟨encodeAll ts values, 0⟩ (maxLevels ts) :=
    ⟨(Nat.zero_add _).trans_le hlevels, hsize⟩
  have hread := decodeAll_layout (readsAll_encode ts values ht hv) hf (List.prefix_refl _)
  rw [decodeCanonical, hread, Option.bind_eq_bind, Option.bind_some]
  simp only [hv, beq_self_eq_true, Bool.and_self, if_true]

end PacketRelay.AbiType
