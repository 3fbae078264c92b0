/-
  References to variables in settings.

  `${NAME}` stands for the value of a variable and `${NAME:-default}` for its value or a default.
  A name has upper-case letters, digits and underscores and starts with no digit; a default has no
  closing brace.

  * `pieces` splits a text into its references, from left to right, and the characters between
    them;
  * `resolve` puts values in place of the references, which are not searched again.
-/
namespace PacketRelay

/-- The values of variables. -/
abbrev Environment := String → Option String

/-- A reference to a variable. -/
structure Reference where
  name : List Char
  fallback : Option (List Char)
deriving Repr, DecidableEq

namespace Reference

/-- Whether a character may stand in a name. -/
def isNameChar (c : Char) : Bool := c.isUpper || c.isDigit || c == '_'

/-- The text of a reference. -/
def text (r : Reference) : List Char :=
  '$' :: '\x7b' :: r.name ++ (match r.fallback with
    | none => []
    | some d => ':' :: '-' :: d) ++ ['\x7d']

/-- Reads a reference after its opening brace. -/
def tail? (s : List Char) : Option (Reference × List Char) :=
  let name := s.takeWhile isNameChar
  match name.head? with
  | none => none
  | some c =>
    if c.isDigit then none
    else match s.dropWhile isNameChar with
      | '\x7d' :: rest => some (⟨name, none⟩, rest)
      | ':' :: '-' :: more => match more.dropWhile (· != '\x7d') with
        | _ :: rest => some (⟨name, some (more.takeWhile (· != '\x7d'))⟩, rest)
        | [] => none
      | _ => none

/-- Reads a reference at the front of a text. -/
def front? : List Char → Option (Reference × List Char)
  | '$' :: '\x7b' :: s => tail? s
  | _ => none

theorem length_dropWhile_le (p : Char → Bool) (s : List Char) :
    (s.dropWhile p).length ≤ s.length :=
  (List.dropWhile_suffix p).length_le

theorem length_lt_of_tail? {s rest : List Char} {r : Reference} (h : tail? s = some (r, rest)) :
    rest.length < s.length := by
  simp only [tail?] at h
  split at h
  · simp at h
  · split at h
    · simp at h
    · have hs := length_dropWhile_le isNameChar s
      split at h
      · rename_i hd
        simp only [Option.some.injEq, Prod.mk.injEq] at h
        rw [hd, h.2] at hs
        exact hs
      · rename_i more hd
        rw [hd] at hs
        split at h
        · rename_i hm
          have hl := length_dropWhile_le (· != '\x7d') more
          simp only [Option.some.injEq, Prod.mk.injEq] at h
          rw [hm, h.2] at hl
          simp only [List.length_cons] at hs hl
          omega
        · simp at h
      · simp at h

theorem length_lt_of_front? {s rest : List Char} {r : Reference} (h : front? s = some (r, rest)) :
    rest.length < s.length := by
  unfold front? at h
  split at h
  · have := length_lt_of_tail? h
    simp only [List.length_cons]
    omega
  · simp at h

end Reference

/-- A part of a text with references. -/
inductive Piece where
  | char (c : Char)
  | reference (r : Reference)
deriving Repr, DecidableEq

namespace Piece

/-- The text of a part. -/
def text : Piece → List Char
  | char c => [c]
  | reference r => r.text

/-- The parts of a text: at each place a reference, if one starts there, or else one character. -/
def pieces (s : List Char) : List Piece :=
  match _h : Reference.front? s with
  | some (r, rest) => reference r :: pieces rest
  | none => match s with
    | [] => []
    | c :: rest => char c :: pieces rest
termination_by s.length
decreasing_by
  · exact Reference.length_lt_of_front? ‹_›
  · simp

/-- What a part stands for, or the name of a variable that has no value. -/
def resolve (env : Environment) : Piece → Except String (List Char)
  | char c => .ok [c]
  | reference r => match env (String.ofList r.name), r.fallback with
    | some value, _ => .ok value.toList
    | none, some d => .ok d
    | none, none => .error (String.ofList r.name)

/-- The names of the variables in a text. -/
def names (s : String) : List String :=
  (pieces s.toList).filterMap fun
    | char _ => none
    | reference r => some (String.ofList r.name)

end Piece

namespace Environment

/-- A text with values in place of its references, or the name of the first variable that has
    neither a value nor a default. -/
def resolve (env : Environment) (s : String) : Except String String := do
  let parts ← (Piece.pieces s.toList).mapM (Piece.resolve env)
  pure (String.ofList parts.flatten)

end Environment

end PacketRelay
