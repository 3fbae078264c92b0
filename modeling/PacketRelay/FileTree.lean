/-
  A tree of folders and files.

  * `FileTree.resolve` follows a path and gives the names that lead to its end, or says what is in
    the way;
  * `read`, `exists?`, `list`, `write`, `openFolders`, `rename` and `remove` act on one path.
    They change nothing but what they are asked to change, and what fails changes nothing: only of
    the folders of a path some may be there when another one could not be created.

  Links, rights, the space on the disk and the greatest length of a whole path are left out.
-/
import PacketRelay.Path
import PacketRelay.Text.Utf8

namespace PacketRelay

/-- A file or a folder with named entries. -/
inductive FileTree where
  | file (content : Bytes)
  | folder (entries : List (String × FileTree))

/-- Why a path cannot be used. -/
inductive FileFault where
  | notFound
  | isFolder
  | isNoFolder
  | badName
deriving Repr, DecidableEq

/-- The wording of a fault. -/
def FileFault.message : FileFault → String
  | notFound => "No such file or directory"
  | isFolder => "Is a directory"
  | isNoFolder => "Not a directory"
  | badName => "Invalid file name"

namespace FileTree

/-- A folder without entries. -/
def empty : FileTree := folder []

/-! ## Entries by name -/

/-- The entry of a folder. -/
def entry? (name : String) : FileTree → Option FileTree
  | file _ => none
  | folder entries => entries.lookup name

/-- Sets an entry in a list of entries. -/
def setEntry (name : String) (node : FileTree) : List (String × FileTree) → List (String × FileTree)
  | [] => [(name, node)]
  | (n, t) :: rest => if n = name then (name, node) :: rest else (n, t) :: setEntry name node rest

/-- Removes an entry from a list of entries. -/
def dropEntry (name : String) (entries : List (String × FileTree)) : List (String × FileTree) :=
  entries.filter fun (n, _) => n != name

/-- What stands at the end of a list of names. -/
def node? : FileTree → List String → Option FileTree
  | t, [] => some t
  | t, name :: rest => (t.entry? name).bind (node? · rest)

/-- Changes the entries of the folder at the end of a list of names. -/
def modify (f : List (String × FileTree) → List (String × FileTree)) :
    List String → FileTree → FileTree
  | _, file content => file content
  | [], folder entries => folder (f entries)
  | name :: rest, folder entries => match entries.lookup name with
    | none => folder entries
    | some t => folder (setEntry name (modify f rest t) entries)

/-- Puts something at the end of a list of names, whose folder exists. -/
def put (t : FileTree) (names : List String) (node : FileTree) : FileTree :=
  match names.getLast? with
  | none => t
  | some name => modify (setEntry name node) names.dropLast t

/-- Takes away what stands at the end of a list of names. -/
def drop (t : FileTree) (names : List String) : FileTree :=
  match names.getLast? with
  | none => t
  | some name => modify (dropEntry name) names.dropLast t

/-! ## Following a path -/

/-- The longest name of an entry, in bytes. -/
def nameLimit : Nat := 255

/-- Follows the steps of a path.  `names` lead to the folder reached so far; the last step may name
    an entry that does not exist. -/
def follow (t : FileTree) : List String → List String → Except FileFault (List String)
  | names, [] => .ok names
  | names, step :: rest => match t.node? names with
    | none => .error .notFound
    | some (file _) => .error .isNoFolder
    | some (folder _) =>
      if step = "" ∨ step = "." then follow t names rest
      else if step = ".." then follow t names.dropLast rest
      else if nameLimit < (utf8 step).length then .error .badName
      else follow t (names ++ [step]) rest

/-- The names that lead to the end of a path. -/
def resolve (t : FileTree) (p : Path) : Except FileFault (List String) :=
  if p.text.toList.contains '\x00' then .error .badName
  else if p.text.isEmpty then .error .notFound
  else t.follow [] p.steps

/-- What stands at the end of a path. -/
def find (t : FileTree) (p : Path) : Except FileFault FileTree := do
  match t.node? (← t.resolve p) with
  | none => throw .notFound
  | some node => pure node

/-! ## Operations -/

/-- The content of a file. -/
def read (t : FileTree) (p : Path) : Except FileFault Bytes := do
  match ← t.find p with
  | file content => pure content
  | folder _ => throw .isFolder

/-- Whether something stands at the end of a path; only its absence is no fault. -/
def exists? (t : FileTree) (p : Path) : Except FileFault Bool :=
  match t.find p with
  | .ok _ => .ok true
  | .error .notFound => .ok false
  | .error e => .error e

/-- The entries of a folder. -/
def list (t : FileTree) (p : Path) : Except FileFault (List (String × FileTree)) := do
  match ← t.find p with
  | file _ => throw .isNoFolder
  | folder entries => pure entries

/-- Creates a file or replaces its content. -/
def write (t : FileTree) (p : Path) (content : Bytes) : Except FileFault FileTree := do
  let names ← t.resolve p
  match t.node? names with
  | some (folder _) => throw .isFolder
  | some (file _) => pure (t.put names (file content))
  | none =>
    if p.text.toList.getLast? == some '/' then throw .isFolder
    pure (t.put names (file content))

/-- Whether steps stay where they are and one of them is spelled `.`; only a folder that is there
    already can be named in this way. -/
def endsInDot (steps : List String) : Bool :=
  steps.all (fun step => step = "" || step = ".") && steps.contains "."

/-- Creates the missing folders among those that steps lead through.  Where this fails, the folders
    before stay. -/
def createAlong (t : FileTree) : List String → List String → Except FileFault Unit × FileTree
  | _, [] => (.ok (), t)
  | names, step :: rest =>
    if step = "" ∨ step = "." then createAlong t names rest
    else if step = ".." then createAlong t names.dropLast rest
    else if nameLimit < (utf8 step).length then (.error .badName, t)
    else
      let names := names ++ [step]
      match t.node? names with
      | some (folder _) => createAlong t names rest
      | some (file _) => (.error .isNoFolder, t)
      | none =>
        if endsInDot rest then (.error .notFound, t)
        else createAlong (t.put names empty) names rest

/-- Creates the missing folders of a path, one after the other. -/
def openFolders (t : FileTree) (p : Path) : Except FileFault Unit × FileTree :=
  if p.text.toList.contains '\x00' then (.error .badName, t) else t.createAlong [] p.steps

/-- The tree with the folders of a path, if all of them can be created. -/
def createFolders (t : FileTree) (p : Path) : Except FileFault FileTree :=
  match t.openFolders p with
  | (.error e, _) => .error e
  | (.ok (), t) => .ok t

/-- Creates a file together with the folders it stands in; a file that cannot be created is left
    out. -/
def install (t : FileTree) (p : Path) (content : Bytes) : FileTree :=
  match t.createAlong [] p.steps.dropLast with
  | (.error _, _) => t
  | (.ok (), t) => (t.write p content).toOption.getD t

/-- Moves a file, replacing a file at its new place. -/
def rename (t : FileTree) (source target : Path) : Except FileFault FileTree := do
  let names ← t.resolve source
  let targetNames ← t.resolve target
  match t.node? names, t.node? targetNames with
  | none, _ => throw .notFound
  | some (folder _), _ => throw .isFolder
  | _, some (folder _) => throw .isFolder
  | some node, _ => pure (if names = targetNames then t else (t.drop names).put targetNames node)

/-- Takes a file away. -/
def remove (t : FileTree) (p : Path) : Except FileFault FileTree := do
  let names ← t.resolve p
  match t.node? names with
  | none => throw .notFound
  | some (folder _) => throw .isFolder
  | some (file _) => pure (t.drop names)

/-! ## All files -/

mutual

/-- The files of a tree with the names that lead to them. -/
def files : FileTree → List (List String × Bytes)
  | file content => [([], content)]
  | folder entries => filesOf entries

/-- The files below entries. -/
def filesOf : List (String × FileTree) → List (List String × Bytes)
  | [] => []
  | (name, t) :: rest => (files t).map (fun (names, b) => (name :: names, b)) ++ filesOf rest

end

end FileTree

end PacketRelay
