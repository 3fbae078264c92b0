/-
  The extension of a file's name.

  A name is a stem, perhaps followed by a dot and an extension (`splitName_cases`), and
  `withExtension_join` says which file of a folder stands beside another one when its extension is
  replaced.  A name whose stem is a single dot has no such file: the path then leads upwards.
-/
import PacketRelay.Proofs.Files.Folder

namespace PacketRelay.Path

/-! ## Stem and extension -/

/-- A name has no extension, or it is a stem, a dot and an extension. -/
theorem splitName_cases (n : List Char) :
    splitName n = (n, none) ∨
      ∃ stem ext, splitName n = (stem, some ext) ∧ n = stem ++ '.' :: ext ∧ stem ≠ [] := by
  generalize hback : n.reverse.takeWhile (· != '.') = back
  generalize hrest : n.reverse.dropWhile (· != '.') = rest
  have hn : n = rest.reverse ++ back.reverse := by
    rw [← List.reverse_append, ← hback, ← hrest, List.takeWhile_append_dropWhile,
      List.reverse_reverse]
  cases rest with
  | nil =>
    left
    have hlen : back.length = n.length := by simp [hn]
    simp only [splitName, hback, hlen, true_or, if_true]
  | cons c rest =>
    have hc : c = '.' := by
      have := List.head?_dropWhile_not (· != '.') n.reverse
      rw [hrest] at this
      simpa using this
    have hstem : (n.take (n.length - back.length)).dropLast = rest.reverse := by
      have hlen : n.length - back.length = (c :: rest).reverse.length := by
        simp only [hn, List.length_append, List.length_reverse, List.length_cons]
        omega
      rw [hlen]
      conv_lhs => rw [hn]
      rw [List.take_left, List.reverse_cons, List.dropLast_concat]
    have hlen : back.length ≠ n.length := by
      simp only [hn, List.length_append, List.length_reverse, List.length_cons]
      omega
    by_cases hnil : rest.reverse = []
    · left
      simp only [splitName, hback, hstem, hnil, or_true, if_true]
    · right
      refine ⟨rest.reverse, back.reverse, ?_, by simp [hn, hc], hnil⟩
      simp only [splitName, hback, hstem, hlen, hnil, or_self, if_false]

theorem splitName_append_dot {stem : List Char} (h : stem ≠ []) :
    splitName (stem ++ ['.']) = (stem, some []) := by
  have htake : (stem ++ ['.']).take (stem.length + 1) = stem ++ ['.'] :=
    List.take_of_length_le (by simp)
  simp [splitName, h, htake]

theorem stem_isPrefixOf (n : List Char) : (splitName n).1 <+: n := by
  rcases splitName_cases n with h | ⟨stem, ext, h, hn, -⟩
  · simp [h]
  · rw [h, hn]
    exact List.prefix_append _ _

/-! ## The last name of a path -/

/-- The path ends in a name that stands at its beginning or after a slash. -/
structure EndsIn (p : Path) (front n : List Char) : Prop where
  text : p.text.toList = front ++ n
  front : ∀ c ∈ front.reverse.head?, c = '/'
  noSlash : '/' ∉ n
  nonempty : n ≠ []
  noDot : n ≠ ['.']

namespace EndsIn

variable {p : Path} {front n : List Char}

theorem dropIdle_eq (h : EndsIn p front n) :
    dropIdle p.text.toList.reverse = p.text.toList.reverse := by
  obtain ⟨c, r, hcr⟩ : ∃ c r, n.reverse = c :: r :=
    List.exists_cons_of_ne_nil (by simpa using h.nonempty)
  have hslash : '/' ∉ c :: r := by
    rw [← hcr, List.mem_reverse]
    exact h.noSlash
  rw [h.text, List.reverse_append, hcr, List.cons_append]
  unfold dropIdle
  split
  · rename_i heq
    obtain ⟨rfl, -⟩ := List.cons.inj heq
    simp at hslash
  · -- a dot before a slash would be all of the name
    rename_i heq
    obtain ⟨rfl, hr⟩ := List.cons.inj heq
    cases r with
    | nil => exact absurd (List.reverse_eq_iff.1 hcr) h.noDot
    | cons d r =>
      obtain ⟨rfl, -⟩ := List.cons.inj hr
      simp at hslash
  · rename_i heq
    obtain ⟨rfl, hr⟩ := List.cons.inj heq
    obtain ⟨rfl, -⟩ := List.append_eq_nil_iff.1 hr
    exact absurd (List.reverse_eq_iff.1 hcr) h.noDot
  · rfl

theorem takeWhile_eq (h : EndsIn p front n) :
    p.text.toList.reverse.takeWhile (· != '/') = n.reverse := by
  rw [h.text, List.reverse_append, List.takeWhile_append_of_pos]
  · cases hf : front.reverse with
    | nil => simp
    | cons c s =>
      obtain rfl := h.front c (by simp [hf])
      simp
  · intro d hd
    exact bne_iff_ne.2 fun e => h.noSlash (e ▸ List.mem_reverse.1 hd)

theorem lastName (h : EndsIn p front n) : p.lastName = (p.text.toList.reverse, n.reverse) := by
  simp only [Path.lastName, h.dropIdle_eq, h.takeWhile_eq]

theorem fileName? (h : EndsIn p front n) :
    p.fileName? = if n = ['.', '.'] then none else some n := by
  simp only [Path.fileName?, h.lastName]
  split
  · rename_i heq
    exact absurd (by simpa using heq) h.nonempty
  · rename_i heq
    rw [if_pos (by simpa using congrArg List.reverse heq)]
  · rename_i hdots
    rw [if_neg (fun e => hdots (by simp [e])), List.reverse_reverse]

theorem setExtension (h : EndsIn p front n) (hn : n ≠ ['.', '.']) (x : String) :
    p.setExtension x = ⟨String.ofList (front ++ (splitName n).1) ++ "." ++ x⟩ := by
  have htake : p.text.toList.take
      (p.text.toList.length - n.length + (splitName n).1.length) = front ++ (splitName n).1 := by
    have hlen : p.text.toList.length - n.length = front.length := by simp [h.text]
    rw [hlen, h.text, List.take_length_add_append, ← List.prefix_iff_eq_take.1 (stem_isPrefixOf n)]
  simp only [Path.setExtension, h.fileName?, if_neg hn, h.lastName, List.reverse_reverse, htake]

/-- The extension of the last name replaced. -/
theorem withExtension (h : EndsIn p front n) (hn : n ≠ ['.', '.']) (x : String) :
    (p.withExtension x).text.toList =
      if (splitName n).1 = ['.'] then front ++ ['.', '.']
      else front ++ (splitName n).1 ++ '.' :: x.toList := by
  rcases splitName_cases n with hs | ⟨stem, ext, hs, hcut, hstem⟩
  · have hone : n ≠ ['.'] := h.noDot
    simp [Path.withExtension, extension?, h.fileName?, hn, hs, h.setExtension hn, hone]
  · -- what stands before the extension ends in the stem and its dot
    have htext : p.text.toList.take (p.text.length - ext.length) = front ++ (stem ++ ['.']) := by
      have hlen : p.text.length - ext.length = (front ++ (stem ++ ['.'])).length := by
        rw [← String.length_toList, h.text, hcut]
        simp
        omega
      rw [hlen, h.text, hcut]
      have : front ++ (stem ++ '.' :: ext) = front ++ (stem ++ ['.']) ++ ext := by simp
      rw [this, List.take_left]
    have hends : EndsIn ⟨String.ofList (front ++ (stem ++ ['.']))⟩ front (stem ++ ['.']) := by
      refine ⟨by simp, h.front, ?_, by simp, by simpa using hstem⟩
      have := h.noSlash
      rw [hcut] at this
      simp_all
    simp only [Path.withExtension, extension?, h.fileName?, if_neg hn, hs, Option.bind_some,
      Option.map_some, String.length_ofList, htext]
    by_cases hdot : stem = ['.']
    · have hnone : (Path.mk (String.ofList (front ++ (stem ++ ['.'])))).fileName? = none := by
        rw [hends.fileName?, hdot]
        rfl
      rw [Path.setExtension, hnone, if_pos hdot, String.toList_ofList, hdot]
      rfl
    · have hne : stem ++ ['.'] ≠ ['.', '.'] := by
        intro e
        exact hdot (List.append_cancel_right (e : stem ++ ['.'] = ['.'] ++ ['.']))
      rw [hends.setExtension hne, splitName_append_dot hstem, if_neg hdot]
      simp

end EndsIn

/-! ## Files of a folder -/

theorem exists_front (base : Path) : ∃ front : List Char, (∀ c ∈ front.reverse.head?, c = '/') ∧
    ∀ n : String, '/' ∉ n.toList → (base.join ⟨n⟩).text.toList = front ++ n.toList := by
  refine ⟨_, ?_, fun n hn => text_join hn⟩
  split_ifs with h
  · rcases h with h | h
    · simp [h]
    · simp [h]
  · simp

/-- The name with another extension. -/
def renamed (n x : String) : String :=
  let stem := (splitName n.toList).1
  if stem = ['.'] then ".." else String.ofList stem ++ "." ++ x

/-- **The file beside a file, under another extension.** -/
theorem withExtension_join {base : Path} {n : String} (hn : IsStep n) {x : String}
    (hx : '/' ∉ x.toList) : (base.join ⟨n⟩).withExtension x = base.join ⟨renamed n x⟩ := by
  obtain ⟨front, hfront, htext⟩ := exists_front base
  have hends : EndsIn (base.join ⟨n⟩) front n.toList :=
    ⟨htext n hn.noSlash, hfront, hn.noSlash, by simpa using hn.nonempty,
      fun e => hn.noDot (String.toList_injective e)⟩
  have hslash : '/' ∉ (renamed n x).toList := by
    have hstem : '/' ∉ (splitName n.toList).1 :=
      fun h => hn.noSlash ((stem_isPrefixOf n.toList).subset h)
    simp only [renamed]
    split_ifs
    · decide
    · simp [String.toList_append, hstem, hx]
  have hext : ∀ p q : Path, p.text.toList = q.text.toList → p = q := by
    rintro ⟨p⟩ ⟨q⟩ h
    exact congrArg _ (String.toList_injective h)
  apply hext
  rw [hends.withExtension (fun e => hn.noDots (String.toList_injective e)), htext _ hslash]
  simp only [renamed]
  split_ifs <;> simp [String.toList_append]

end PacketRelay.Path
