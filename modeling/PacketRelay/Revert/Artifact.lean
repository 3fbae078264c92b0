/-
  Loading error definitions from artifacts.

  An artifact is a JSON file whose member `abi` is the interface of a contract.  `loadFolder` visits
  all files with the extension `json` below a folder: those of the folder itself in the order of
  their names, then the folders in it, the last one first.  Loading stops at the first error; what
  was added before stays.
-/
import PacketRelay.Json.Parser
import PacketRelay.Revert.Catalog

namespace PacketRelay

/-! ## Files in a folder -/

namespace FileTree

/-- What a visit finds under a name: a file, or the files below a folder in the order of the
    visit. -/
inductive Visited where
  | file (content : Bytes)
  | folder (files : List (List String × Bytes))

/-- The files and folders visited, in the order of the visit: files first, folders from the last
    to the first. -/
def visitOrder (entries : List (String × Visited)) : List (List String × Bytes) :=
  let sorted := entries.mergeSort fun a b => !decide (b.1 < a.1)
  let own := sorted.filterMap fun
    | (name, .file content) => some ([name], content)
    | _ => none
  let below := sorted.reverse.flatMap fun
    | (name, .folder files) => files.map fun (names, content) => (name :: names, content)
    | _ => []
  own ++ below

mutual

/-- What a visit finds. -/
def visit : FileTree → Visited
  | file content => .file content
  | folder entries => .folder (visitOrder (visitEntries entries))

/-- What visits find under the names of a folder. -/
def visitEntries : List (String × FileTree) → List (String × Visited)
  | [] => []
  | (name, t) :: rest => (name, visit t) :: visitEntries rest

end

end FileTree

namespace ErrorCatalog

/-- Changes a catalog; what was changed before an error stays changed. -/
abbrev Loading (α : Type) := ExceptT RevertError (StateM ErrorCatalog) α

section
variable (hash : String → Selector)

/-- Adds one definition and gives how many are new. -/
def addOne (e : ErrorDefinition) : Loading Nat := do
  let c ← get
  match c.add hash e with
  | .ok (isNew, c) => do
    set c
    pure (if isNew then 1 else 0)
  | .error err => throw err

/-- Adds definitions and gives how many are new. -/
def addAll : List ErrorDefinition → Loading Nat
  | [] => pure 0
  | e :: rest => do
    let n ← addOne hash e
    let m ← addAll rest
    pure (n + m)

/-- The definitions in an artifact: none if it has no interface. -/
def definitionsIn (path : Path) (content : Bytes) : Except RevertError (List ErrorDefinition) := do
  let s ← (Utf8.decode content).mapError .notText
  match Json.parseKept s with
  | none => throw (.artifact path)
  | some d => match d.member? "abi" with
    | none => pure []
    | some interface => (Interface.errors interface).mapError fun _ => .artifact path

/-- Loads the content of an artifact. -/
def loadContent (path : Path) (content : Bytes) : Loading Nat := do
  match definitionsIn path content with
  | .ok es => addAll hash es
  | .error err => throw err

/-- Loads an artifact. -/
def loadArtifact (files : FileTree) (path : Path) : Loading Nat := do
  match files.read path with
  | .ok content => loadContent hash path content
  | .error fault => throw (.file fault)

/-- Loads artifacts one after the other. -/
def loadAll : List (Path × Bytes) → Loading Nat
  | [] => pure 0
  | (path, content) :: rest => do
    let n ← loadContent hash path content
    let m ← loadAll rest
    pure (n + m)

/-- The artifacts below a folder with their paths. -/
def artifactsBelow (files : FileTree) (folder : Path) : Except FileFault (List (Path × Bytes)) := do
  let entries ← files.list folder
  let found := (FileTree.visitOrder (FileTree.visitEntries entries)).map fun (names, content) =>
    (names.foldl (fun p name => p.join ⟨name⟩) folder, content)
  pure (found.filter fun (p, _) => p.extension? == some "json")

/-- Loads all artifacts below a folder. -/
def loadFolder (files : FileTree) (folder : Path) : Loading Nat := do
  match artifactsBelow files folder with
  | .ok found => loadAll hash found
  | .error fault => throw (.file fault)

/-- Loads all artifacts below folders. -/
def loadFolders (files : FileTree) : List Path → Loading Unit
  | [] => pure ()
  | folder :: rest => do
    let _ ← loadFolder hash files folder
    loadFolders files rest

/-- The catalog of all artifacts below folders. -/
def ofFolders (files : FileTree) (folders : List Path) : Except RevertError ErrorCatalog :=
  match loadFolders hash files folders (initial hash) with
  | (.ok (), c) => .ok c
  | (.error e, _) => .error e

end

end ErrorCatalog

end PacketRelay
