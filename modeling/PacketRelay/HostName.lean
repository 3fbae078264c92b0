/-
  The names of hosts.

  A name is a list of labels between dots.  `HostName.normalize?` gives the one form that all ways
  to write a name have, if it is a name:

  * each character is spelled as `HostName.spell?` says, and the text is composed;
  * a label that starts with `xn--` is a code for a text that is in this form already;
  * no label starts with a mark, and the joiners stand only where they make a difference;
  * if some label is written from right to left, each label keeps to one direction.
-/
import PacketRelay.HostName.Punycode
import PacketRelay.HostName.Spelling
import PacketRelay.Unicode.BidiClass
import PacketRelay.Unicode.Composition
import PacketRelay.Unicode.Joining

namespace PacketRelay.HostName

open Unicode

/-- Whether a character is outside of ASCII. -/
def isForeign (c : Char) : Bool := 0x80 ≤ c.toNat

/-! ## Joiners -/

/-- The character that keeps letters apart. -/
def nonJoiner : Char := '\u200c'

/-- The character that joins letters. -/
def joiner : Char := '\u200d'

/-- Whether the first character that counts satisfies a condition. -/
def nextIs (p : Char → Bool) (s : List Char) : Bool := (s.dropWhile isTransparent).head?.any p

/-- Whether the joiners in a text make a difference: each follows a mark after which letters may
    join, or keeps two letters apart that would be joined.  The first argument holds the characters
    before the text, in reverse. -/
def joinersCount : List Char → List Char → Bool
  | _, [] => true
  | before, c :: rest =>
    let counts :=
      if c == joiner || c == nonJoiner then
        before.head?.any (combiningClass · == viramaClass) ||
          (c == nonJoiner && nextIs joinsNext before && nextIs joinsPrevious rest)
      else true
    counts && joinersCount (c :: before) rest

/-! ## Labels -/

/-- The greatest length of a label with characters outside of ASCII. -/
def maxForeign : Nat := 1000

/-- Whether a text may be a label, its direction apart. -/
def isLabel (s : List Char) : Bool :=
  !s.head?.any isMark && joinersCount [] s && (!s.any isForeign || s.length ≤ maxForeign)

/-- The text of a label. -/
def label? : List Char → Option (List Char)
  | 'x' :: 'n' :: '-' :: '-' :: code => do
    let s ← Punycode.decode? code
    if s.any isForeign && s.all isSpelledAsIs && composed s == s && isLabel s then some s else none
  | s => if isLabel s then some s else none

/-! ## Directions -/

/-- Whether characters are written from left to right only; marks at the end do not count. -/
def keepsLeft (ds : List BidiClass) : Bool :=
  ds.all (fun d => d != .right && d != .arabicDigit) &&
    (ds.reverse.dropWhile (· == .mark)).head?.any fun d => d == .left || d == .digit

/-- Whether characters are written from right to left only, with digits of one kind; marks at the
    end do not count. -/
def keepsRight (ds : List BidiClass) : Bool :=
  !ds.contains .left && !(ds.contains .digit && ds.contains .arabicDigit) &&
    (ds.reverse.dropWhile (· == .mark)).head?.any fun d =>
      d == .right || d == .digit || d == .arabicDigit

/-- Whether a label keeps to the direction of its first character. -/
def keepsDirection (s : List Char) : Bool :=
  let ds := s.map bidiClass
  match ds with
  | [] => true
  | .left :: _ => keepsLeft ds
  | .right :: _ => keepsRight ds
  | _ => false

/-! ## Names -/

/-- The labels of a name. -/
def labels (s : List Char) : List (List Char) := parts (· == '.') s

/-- The one form of a name. -/
def normalize? (s : List Char) : Option (List Char) := do
  let spelled ← s.mapM spell?
  let found ← (labels (composed spelled.flatten)).mapM label?
  if found.any (·.any isRightward) && !found.all keepsDirection then none
  else pure (['.'].intercalate found)

end PacketRelay.HostName
