/-
  Rendered values as documents.

  * `Rendered` are the documents that values are rendered as (`rendered_render`).  They are read as
    they have been written, and their tables are sorted already;
  * `depth_arguments`: what data hold is not nested deeper than the data can be read;
  * `renderings_agree`: the text of an error holds the table of its arguments.
-/
import PacketRelay.Proofs.Document.Object
import PacketRelay.Proofs.Json.Reading
import PacketRelay.Proofs.Revert.Decoding

namespace PacketRelay

/-! ## Rendered documents -/

/-- Documents as values are rendered. -/
inductive Rendered : Document → Prop
  | bool (b : Bool) : Rendered (.bool b)
  /-- A number of 64 bits. -/
  | integer {n : Int} : n.natAbs ≤ countMax → Rendered (.integer n)
  | text (s : String) : Rendered (.text s)
  | list {ds : List Document} : (∀ d ∈ ds, Rendered d) → Rendered (.list ds)
  | object {ms : List (String × Document)} : (∀ m ∈ ms, Rendered m.2) → Rendered (.object ms)

namespace AbiType

theorem rendered_renderNatural (n : Nat) : Rendered (renderNatural n) := by
  unfold renderNatural
  split
  · next h => exact .integer (Nat.le_pred_of_lt h)
  · exact .text _

theorem rendered_renderInteger (n : Int) : Rendered (renderInteger n) := by
  unfold renderInteger
  split
  · next h =>
    refine .integer ?_
    have hmax : countMax = 1 <<< 64 - 1 := rfl
    omega
  · exact .text _

theorem rendered_zip {keys : List String} {ds : List Document} (h : ∀ d ∈ ds, Rendered d) :
    ∀ m ∈ keys.zip ds, Rendered m.2 :=
  fun m hm => h m.2 (List.of_mem_zip (a := m.1) (b := m.2) hm).2

mutual

/-- **Values are rendered as such documents.** -/
theorem rendered_render : ∀ (t : AbiType) (v : t.Value), Rendered (render t v)
  | .uint _, n => rendered_renderNatural n
  | .int _, n => rendered_renderInteger n
  | .bool, b => .bool b
  | .address, _ | .fixedBytes _, _ | .function, _ | .bytes, _ | .string, _ => .text _
  | .array element, items => .list (List.forall_mem_map.2 fun v _ => rendered_render element v)
  | .fixedArray _ element, items =>
    .list (List.forall_mem_map.2 fun v _ => rendered_render element v)
  | .tuple names components, values => by
    simp only [render]
    split
    · exact .object (rendered_zip (rendered_renderAll components values))
    · exact .list (rendered_renderAll components values)

theorem rendered_renderAll : ∀ (ts : List AbiType) (values : Values ts),
    ∀ d ∈ renderAll ts values, Rendered d
  | [], _ => List.forall_mem_nil _
  | t :: rest, (v, values) =>
    List.forall_mem_cons.2 ⟨rendered_render t v, rendered_renderAll rest values⟩

end

end AbiType

/-! ## Reading and sorting them -/

theorem rereadItems_eq_self {ds : List Document} (h : ∀ d ∈ ds, Json.reread d = d) :
    Json.rereadItems ds = ds := by
  induction ds with
  | nil => rfl
  | cons d ds ih =>
    rw [List.forall_mem_cons] at h
    rw [Json.rereadItems, h.1, ih h.2]

theorem rereadMembers_eq_self {ms : List (String × Document)}
    (h : ∀ m ∈ ms, Json.reread m.2 = m.2) : Json.rereadMembers ms = ms := by
  induction ms with
  | nil => rfl
  | cons m ms ih =>
    rw [List.forall_mem_cons] at h
    rw [Json.rereadMembers, h.1, ih h.2]

theorem mergedItems_eq_self {ds : List Document} (h : ∀ d ∈ ds, d.merged = d) :
    Document.mergedItems ds = ds := by
  induction ds with
  | nil => rfl
  | cons d ds ih =>
    rw [List.forall_mem_cons] at h
    rw [Document.mergedItems, h.1, ih h.2]

theorem mergedMembers_eq_self {ms : List (String × Document)} (h : ∀ m ∈ ms, m.2.merged = m.2) :
    Document.mergedMembers ms = ms := by
  induction ms with
  | nil => rfl
  | cons m ms ih =>
    rw [List.forall_mem_cons] at h
    rw [Document.mergedMembers, h.1, ih h.2]

theorem areReadable_of_forall {ds : List Document} (h : ∀ d ∈ ds, d.isReadable = true) :
    Document.areReadable ds = true := by
  induction ds with
  | nil => rfl
  | cons d ds ih =>
    rw [List.forall_mem_cons] at h
    rw [Document.areReadable, h.1, ih h.2]
    rfl

theorem membersReadable_of_forall {ms : List (String × Document)}
    (h : ∀ m ∈ ms, m.2.isReadable = true) : Document.membersReadable ms = true := by
  induction ms with
  | nil => rfl
  | cons m ms ih =>
    rw [List.forall_mem_cons] at h
    rw [Document.membersReadable, h.1, ih h.2]
    rfl

/-- Members that have been sorted are members that were given. -/
theorem forall_sortMembers {P : String × Document → Prop} {ms : List (String × Document)}
    (h : ∀ m ∈ ms, P m) : ∀ m ∈ Document.sortMembers ms, P m :=
  fun m hm => h m (Document.mem_of_mem_sortMembers hm)

namespace Rendered

variable {d : Document}

/-- What is rendered is read as it has been written. -/
theorem reread_eq (h : Rendered d) : Json.reread d = d := by
  induction h with
  | bool | text => rfl
  | integer hn => exact Json.document_integerNumeral_of_le hn
  | list _ ih => exact congrArg Document.list (rereadItems_eq_self ih)
  | object _ ih => exact congrArg Document.table (rereadMembers_eq_self (forall_sortMembers ih))

/-- Its tables are sorted. -/
theorem merged_eq (h : Rendered d) : d.merged = d := by
  induction h with
  | bool | text | integer => rfl
  | list _ ih => exact congrArg Document.list (mergedItems_eq_self ih)
  | @object ms _ ih =>
    change Document.object (Document.mergedMembers (Document.sortMembers ms)) = _
    rw [mergedMembers_eq_self (forall_sortMembers ih), Document.object,
      Document.sortMembers_of_sorted (Document.sorted_sortMembers ms)]
    rfl

theorem readable (h : Rendered d) : d.isReadable = true := by
  induction h with
  | bool | text | integer => rfl
  | list _ ih => exact areReadable_of_forall ih
  | object _ ih => exact membersReadable_of_forall (forall_sortMembers ih)

end Rendered

section
variable {ms : List (String × Document)}

theorem reread_table (h : ∀ m ∈ ms, Rendered m.2) : Json.reread (.table ms) = .table ms :=
  congrArg Document.table (rereadMembers_eq_self fun m hm => (h m hm).reread_eq)

/-- **A table of rendered documents is read from its text**, with its members in their order. -/
theorem parse_text_table (h : ∀ m ∈ ms, Rendered m.2) :
    Json.parse (Json.text (.table ms)) = some (.table ms) := by
  rw [Json.parse_text, reread_table h]

/-- Where it is kept, it is sorted by its keys. -/
theorem parseKept_text_table (h : ∀ m ∈ ms, Rendered m.2)
    (hdepth : (Document.table ms).depth ≤ Json.depthLimit) :
    Json.parseKept (Json.text (.table ms)) = some (.object ms) := by
  have hmerged : (Document.table ms).merged = .object ms :=
    congrArg Document.object (mergedMembers_eq_self fun m hm => (h m hm).merged_eq)
  have hreadable : (Document.table ms).isReadable = true :=
    membersReadable_of_forall fun m hm => (h m hm).readable
  have hreread := reread_table h
  have hkept := Json.parseKept_text (hreread.symm ▸ hreadable) (hreread.symm ▸ hdepth)
  rwa [hreread, hmerged] at hkept

end

/-! ## How deep they are nested -/

namespace Document

theorem depthItems_le {ds : List Document} {n : Nat} (h : ∀ d ∈ ds, d.depth ≤ n) :
    depthItems ds ≤ n := by
  induction ds with
  | nil => exact Nat.zero_le n
  | cons d ds ih =>
    rw [List.forall_mem_cons] at h
    exact Nat.max_le.2 ⟨h.1, ih h.2⟩

theorem depthMembers_le {ms : List (String × Document)} {n : Nat} (h : ∀ m ∈ ms, m.2.depth ≤ n) :
    depthMembers ms ≤ n := by
  induction ms with
  | nil => exact Nat.zero_le n
  | cons m ms ih =>
    rw [List.forall_mem_cons] at h
    exact Nat.max_le.2 ⟨h.1, ih h.2⟩

theorem depth_zip (keys : List String) {ds : List Document} {n : Nat} (h : ∀ d ∈ ds, d.depth ≤ n) :
    ∀ m ∈ keys.zip ds, m.2.depth ≤ n :=
  fun m hm => h m.2 (List.of_mem_zip (a := m.1) (b := m.2) hm).2

end Document

namespace AbiType

open Abi

/-- What a frame inside another one leaves for its values. -/
theorem depth_inside {f c : Frame} {o n : Nat} (h : f.child? o = some c)
    (hn : n ≤ depthLimit - c.depth) : 1 + n ≤ depthLimit - f.depth := by
  unfold Frame.child? at h
  split at h
  · next hframe =>
    obtain rfl := Option.some.inj h
    simp only at hn
    omega
  · cases h

/-- Items that are read in a frame are rendered as a list that is one level deeper. -/
theorem depth_list {element : AbiType} {f c : Frame} {o n i j : Nat}
    {items : { items : List element.Value // items.length = n }} (hchild : f.child? o = some c)
    (h : ∀ i v j, decode element c i = some (v, j) →
      (render element v).depth ≤ depthLimit - c.depth)
    (hread : repeatRead (decode element c) n i = some (items, j)) :
    (Document.list (items.val.map (render element))).depth ≤ depthLimit - f.depth := by
  refine depth_inside hchild (Document.depthItems_le (List.forall_mem_map.2 ?_))
  exact forall_of_repeatRead h n i items j hread

mutual

/-- A value is nested no deeper than frames can be opened for it. -/
theorem depth_render : ∀ (t : AbiType) {f : Frame} {i : Nat} {v : t.Value} {j : Nat},
    decode t f i = some (v, j) → (render t v).depth ≤ depthLimit - f.depth
  | .uint _, _, _, n, _, _ => by
    simp only [render, renderNatural]
    split <;> exact Nat.zero_le _
  | .int _, _, _, n, _, _ => by
    simp only [render, renderInteger]
    split <;> exact Nat.zero_le _
  | .bool, _, _, _, _, _ | .address, _, _, _, _, _ | .fixedBytes _, _, _, _, _, _
  | .function, _, _, _, _, _ | .bytes, _, _, _, _, _ | .string, _, _, _, _, _ => Nat.zero_le _
  | .array element, f, i, v, j, h => by
    simp only [decode] at h
    obtain ⟨c, hc, h⟩ := Option.bind_eq_some_iff.1 h
    obtain ⟨o, hchild⟩ := Frame.child_of_indirect hc
    obtain ⟨n, -, h⟩ := Option.bind_eq_some_iff.1 h
    split at h
    · obtain rfl := (Prod.mk.inj (Option.some.inj h)).1
      exact depth_inside hchild (Nat.zero_le _)
    split at h
    · obtain ⟨body, hbody, h⟩ := Option.bind_eq_some_iff.1 h
      obtain ⟨⟨items, k⟩, hread, h⟩ := Option.bind_eq_some_iff.1 h
      obtain rfl := (Prod.mk.inj (Option.some.inj h)).1
      have hlist := depth_list hbody (fun _ _ _ => depth_render element) hread
      have hless : depthLimit - c.depth ≤ depthLimit - f.depth := by
        have hstep := depth_inside hchild (Nat.le_refl _)
        omega
      exact hlist.trans hless
    · cases h
  | .fixedArray size element, f, i, v, j, h => by
    rw [decode_fixedArray] at h
    obtain ⟨o, c, k, hchild, hread⟩ := Frame.exists_of_readInner h
    exact depth_list hchild (fun _ _ _ => depth_render element) hread
  | .tuple names components, f, i, v, j, h => by
    rw [decode_tuple] at h
    obtain ⟨o, c, k, hchild, hread⟩ := Frame.exists_of_readInner h
    have hall := depth_renderAll components hread
    simp only [render]
    split
    · exact depth_inside hchild (Document.depthMembers_le
        (forall_sortMembers (Document.depth_zip _ hall)))
    · exact depth_inside hchild (Document.depthItems_le hall)

theorem depth_renderAll : ∀ (ts : List AbiType) {f : Frame} {i : Nat} {values : Values ts} {j : Nat},
    decodeAll ts f i = some (values, j) →
      ∀ d ∈ renderAll ts values, d.depth ≤ depthLimit - f.depth
  | [], _, _, _, _, _ => List.forall_mem_nil _
  | t :: rest, f, i, values, j, h => by
    rw [decodeAll] at h
    obtain ⟨⟨v, k⟩, hfirst, h⟩ := Option.bind_eq_some_iff.1 h
    obtain ⟨⟨others, l⟩, hrest, h⟩ := Option.bind_eq_some_iff.1 h
    obtain rfl := (Prod.mk.inj (Option.some.inj h)).1
    exact List.forall_mem_cons.2 ⟨depth_render t hfirst, depth_renderAll rest hrest⟩

end

theorem depth_argumentsFrom (ts : List AbiType) {f : Frame} {i : Nat} {values : Values ts}
    (h : decodeArgumentsFrom ts f i = some values) :
    ∀ d ∈ renderAll ts values, d.depth ≤ depthLimit - f.depth := by
  induction ts generalizing i with
  | nil => exact List.forall_mem_nil _
  | cons t rest ih =>
    rw [decodeArgumentsFrom] at h
    split at h
    · cases h
    · obtain ⟨⟨v, k⟩, hfirst, h⟩ := Option.bind_eq_some_iff.1 h
      obtain ⟨others, hrest, h⟩ := Option.bind_eq_some_iff.1 h
      obtain rfl := Option.some.inj h
      exact List.forall_mem_cons.2 ⟨depth_render t hfirst, ih hrest⟩

/-- **What data hold is not nested deeper than data can be read.** -/
theorem depth_arguments {ts : List AbiType} {data : Bytes} {values : Values ts}
    (h : decodeArguments ts data = some values) : ∀ d ∈ renderAll ts values, d.depth ≤ depthLimit :=
  depth_argumentsFrom ts h

end AbiType

/-! ## Both renderings -/

namespace ErrorCatalog

/-- The text of an error is the name of its definition and the text of the table of its arguments, in
    which the last of members with one key counts; where there is no error, there is no text for the
    same reason. -/
inductive Agree (c : ErrorCatalog) (data : Bytes) :
    Except RevertError DecodedError → Except RevertError String → Prop
  | error (err : RevertError) : Agree c data (.error err) (.error err)
  | ok {s : Selector} {e : ErrorDefinition} {decoded : DecodedError} {object : String} :
      s.bytes = data.take 4 → c.find? s = some e → decoded.name = e.name →
      Json.parse object = some (.table decoded.arguments) →
      Json.parseKept object = some decoded.table →
      Agree c data (.ok decoded) (.ok (e.name ++ object))

/-- **Both renderings agree** for all data: the text is the name of the error, followed by the text of
    a table that is read as the table of the arguments. -/
theorem renderings_agree (c : ErrorCatalog) (data : Bytes) :
    Agree c data (c.decode data) (c.decodeText data) := by
  have houtcome := outcome_decode c data
  rw [decodeText]
  generalize c.decode data = r at houtcome
  cases houtcome with
  | short | unknown | undecodable => exact .error _
  | @decoded s e arguments hs hf harguments =>
    obtain ⟨types, values, -, hvalues, rfl⟩ := argumentsOf?_eq_some harguments
    have hrendered : ∀ m ∈ (argumentKeys 0 (namesOf e)).zip (AbiType.renderAll _ values),
        Rendered m.2 := AbiType.rendered_zip (AbiType.rendered_renderAll _ values)
    have hdepth := Document.depthMembers_le
      (Document.depth_zip (argumentKeys 0 (namesOf e)) (AbiType.depth_arguments hvalues))
    have hlimit : (Document.table _).depth ≤ Json.depthLimit :=
      (Nat.add_le_add_left hdepth 1).trans (by decide)
    exact .ok hs hf rfl (parse_text_table hrendered) (parseKept_text_table hrendered hlimit)

end ErrorCatalog

end PacketRelay
