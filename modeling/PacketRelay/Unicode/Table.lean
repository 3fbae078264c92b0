/-
  Tables of characters, written as texts.

  Characters are given by their numbers in base sixteen.  A table of a property is exact on the
  characters that names of hosts are made of; of other characters it holds any that make its ranges
  longer.

  * `spans` reads a set of characters: `a` is one of them, `a-b` are all from `a` to `b`;
  * `rewritings` reads what characters are rewritten to.  `a:` moves to a character; then comes one
    word for each character from there on: `.` for one that is not rewritten, `b,c` for one that
    becomes these.  `b*n` stands for `n` characters that become `b` and those after it, and `b/n`
    for `n` characters of which every second does.
-/
import PacketRelay.Hex

namespace PacketRelay.Unicode

/-! ## Words -/

/-- The parts of a text between separators. -/
def parts (isSeparator : Char → Bool) (s : List Char) : List (List Char) :=
  s.foldr (fun c ps => if isSeparator c then [] :: ps else match ps with
    | [] => [[c]]
    | p :: rest => (c :: p) :: rest) [[]]

/-- The words of a text. -/
def words (s : String) : List (List Char) :=
  (parts (fun c => c == ' ' || c == '\n') s.toList).filter (!·.isEmpty)

/-- The number that digits in base sixteen write. -/
def number (ds : List Char) : Nat := ds.foldl (fun n c => n * 16 + (Hex.charValue? c).getD 0) 0

/-! ## Sets -/

/-- Characters with consecutive numbers. -/
structure Span where
  first : Nat
  last : Nat

/-- Reads characters with consecutive numbers. -/
def Span.ofWord (w : List Char) : Span :=
  match w.dropWhile (· != '-') with
  | _ :: last => ⟨number (w.takeWhile (· != '-')), number last⟩
  | [] => ⟨number w, number w⟩

/-- Reads a set. -/
def spans (s : String) : List Span := (words s).map Span.ofWord

/-- Whether a character is in a set. -/
def holds (ps : List Span) (c : Char) : Bool :=
  ps.any fun p => p.first ≤ c.toNat && c.toNat ≤ p.last

/-! ## Rewritings -/

/-- Characters at equal distances that are rewritten in one way: the first one becomes `target`, the
    others become characters at the same distances from it. -/
structure Rewriting where
  first : Nat
  count : Nat
  distance : Nat
  target : List Nat

namespace Rewriting

/-- The character after the last one that is rewritten. -/
def next (r : Rewriting) : Nat := r.first + (r.count - 1) * r.distance + 1

/-- Reads how characters from the first one on are rewritten. -/
def ofWord (first : Nat) (w : List Char) : Rewriting :=
  let target := (parts (· == ',') (w.takeWhile fun c => c != '*' && c != '/')).map number
  match w.dropWhile fun c => c != '*' && c != '/' with
  | '*' :: n => ⟨first, number n, 1, target⟩
  | '/' :: n => ⟨first, number n, 2, target⟩
  | _ => ⟨first, 1, 1, target⟩

/-- Reads words from a character on. -/
def ofWords : (first : Nat) → List (List Char) → List Rewriting
  | _, [] => []
  | first, w :: rest =>
    if w = ['.'] then ofWords (first + 1) rest
    else if w.getLast? = some ':' then ofWords (number w.dropLast) rest
    else
      let r := ofWord first w
      r :: ofWords r.next rest

/-- What a character is rewritten to. -/
def image? (r : Rewriting) (c : Char) : Option (List Char) :=
  if r.first ≤ c.toNat ∧ c.toNat < r.next ∧ (c.toNat - r.first) % r.distance = 0 then
    some (r.target.map fun n => Char.ofNat (n + (c.toNat - r.first)))
  else none

end Rewriting

/-- Reads rewritings. -/
def rewritings (s : String) : List Rewriting := Rewriting.ofWords 0 (words s)

/-- What a character is rewritten to. -/
def rewrite? (rs : List Rewriting) (c : Char) : Option (List Char) := rs.findSome? (·.image? c)

end PacketRelay.Unicode
