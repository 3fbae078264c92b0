/-
  Paths as texts.

  A path keeps the spelling it was given.  `Path.steps` are the parts between slashes, `join` puts a
  name after a path, `extension?` and `withExtension` read and replace what follows the last dot of
  the last name.
-/
namespace PacketRelay

/-- A path, spelled as it was given. -/
structure Path where
  text : String
deriving Repr, DecidableEq

namespace Path

/-- Whether a path starts at the root of all files. -/
def isAbsolute (p : Path) : Bool := p.text.toList.head? == some '/'

/-- The parts between slashes. -/
def parts : List Char → List (List Char)
  | [] => [[]]
  | c :: rest => match parts rest with
    | [] => [[c]]
    | part :: more => if c = '/' then [] :: part :: more else (c :: part) :: more

/-- What is done one after the other to follow a path; an absolute path starts at `/`. -/
def steps (p : Path) : List String :=
  match parts p.text.toList with
  | [[]] => []
  | [] :: rest => "/" :: rest.map String.ofList
  | all => all.map String.ofList

/-- A path followed from another one: an absolute path replaces it. -/
def join (p q : Path) : Path :=
  if q.isAbsolute then q
  else if p.text.isEmpty || p.text.toList.getLast? == some '/' then ⟨p.text ++ q.text⟩
  else ⟨p.text ++ "/" ++ q.text⟩

/-- Drops empty and `.` parts at the end of a path given back to front. -/
def dropIdle : List Char → List Char
  | '/' :: rest => dropIdle rest
  | '.' :: '/' :: rest => dropIdle rest
  | ['.'] => []
  | s => s

/-- A path cut after its last name, and this name, both back to front. -/
def lastName (p : Path) : List Char × List Char :=
  let s := dropIdle p.text.toList.reverse
  (s, s.takeWhile (· != '/'))

/-- The last name of a path, unless it leads upwards. -/
def fileName? (p : Path) : Option (List Char) :=
  match p.lastName.2 with
  | [] => none
  | ['.', '.'] => none
  | name => some name.reverse

/-- A name cut before its last dot, and what follows the dot; a dot in front does not count. -/
def splitName (name : List Char) : List Char × Option (List Char) :=
  let back := name.reverse.takeWhile (· != '.')
  let stem := (name.take (name.length - back.length)).dropLast
  if back.length = name.length ∨ stem = [] then (name, none) else (stem, some back.reverse)

/-- What follows the last dot of the last name. -/
def extension? (p : Path) : Option String :=
  p.fileName?.bind fun name => (splitName name).2.map String.ofList

/-- The path with the stem of its last name followed by an extension; a path without a last name
    stays as it is. -/
def setExtension (p : Path) (extension : String) : Path :=
  match p.fileName? with
  | none => p
  | some name =>
    let upToName := p.lastName.1.reverse
    let upToStem := upToName.take (upToName.length - name.length + (splitName name).1.length)
    ⟨String.ofList upToStem ++ "." ++ extension⟩

/-- The path with its extension replaced. -/
def withExtension (p : Path) (extension : String) : Path :=
  match p.extension? with
  | none => p.setExtension extension
  | some old =>
    let upToDot := p.text.toList.take (p.text.length - old.length)
    (Path.mk (String.ofList upToDot)).setExtension extension

end Path

end PacketRelay
