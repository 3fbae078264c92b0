/-
  Records kept under keys, in memory or as files.

  The files of `Storage.directory` stand in one folder, one for each key.  A record is first written
  to a file beside its own and then moved there, so that it is never seen half written.
-/
import PacketRelay.Storage.Error

namespace PacketRelay

/-- Where records are kept. -/
inductive Storage where
  | memory (records : List (String × Bytes))
  /-- As files in the folder `base` of a tree. -/
  | directory (base : Path) (tree : FileTree)

namespace Storage

/-! ## Records in memory -/

/-- Sets a record. -/
def setRecord (key : String) (value : Bytes) : List (String × Bytes) → List (String × Bytes)
  | [] => [(key, value)]
  | (k, v) :: rest => if k = key then (key, value) :: rest else (k, v) :: setRecord key value rest

/-- Removes a record. -/
def dropRecord (key : String) (records : List (String × Bytes)) : List (String × Bytes) :=
  records.filter fun (k, _) => k != key

/-! ## Records in files -/

/-- A key as the name of a file. -/
def fileName (key : String) : String :=
  String.ofList (key.toList.map fun c => if c = '/' ∨ c = '\\' ∨ c = ':' then '_' else c)

/-- The file of a key. -/
def filePath (base : Path) (key : String) : Path := base.join ⟨fileName key⟩

/-- The file a record is first written to. -/
def temporaryPath (base : Path) (key : String) : Path := (filePath base key).withExtension "tmp"

/-- What is done one after the other to set a record. -/
inductive WriteStep where
  | createFolders (p : Path)
  | write (p : Path) (content : Bytes)
  | rename (source target : Path)

/-- What a step does that changes nothing if it fails. -/
def wholly (t : FileTree) : Except FileFault FileTree → Except FileFault Unit × FileTree
  | .error e => (.error e, t)
  | .ok t' => (.ok (), t')

/-- Does one step.  Folders may have been created by a step that fails. -/
def WriteStep.run (t : FileTree) : WriteStep → Except FileFault Unit × FileTree
  | createFolders p => t.openFolders p
  | write p content => wholly t (t.write p content)
  | rename source target => wholly t (t.rename source target)

/-- The steps by which a record is set. -/
def writeSteps (base : Path) (key : String) (value : Bytes) : List WriteStep :=
  [.createFolders base, .write (temporaryPath base key) value,
   .rename (temporaryPath base key) (filePath base key)]

/-- Does steps until one fails; what was done before stays. -/
def runSteps (t : FileTree) : List WriteStep → Except FileFault Unit × FileTree
  | [] => (.ok (), t)
  | step :: rest => match step.run t with
    | (.error e, t') => (.error e, t')
    | (.ok (), t') => runSteps t' rest

/-! ## Operations -/

/-- A fault of the files other than a missing one. -/
def ofFault : FileFault → StorageError
  | .notFound => .notFound
  | fault => .backend fault

/-- The record at a key. -/
def get (s : Storage) (key : String) : Except StorageError Bytes :=
  match s with
  | memory records => match records.lookup key with
    | none => .error .notFound
    | some value => .ok value
  | directory base tree => (tree.read (filePath base key)).mapError ofFault

/-- Sets the record at a key. -/
def set (s : Storage) (key : String) (value : Bytes) : Except StorageError Unit × Storage :=
  match s with
  | memory records => (.ok (), memory (setRecord key value records))
  | directory base tree =>
    let (outcome, tree) := runSteps tree (writeSteps base key value)
    (outcome.mapError .backend, directory base tree)

/-- Removes the record at a key, if there is one. -/
def delete (s : Storage) (key : String) : Except StorageError Unit × Storage :=
  match s with
  | memory records => (.ok (), memory (dropRecord key records))
  | directory base tree => match tree.remove (filePath base key) with
    | .ok tree => (.ok (), directory base tree)
    | .error .notFound => (.ok (), s)
    | .error fault => (.error (.backend fault), s)

/-- Whether there is a record at a key. -/
def contains (s : Storage) (key : String) : Except StorageError Bool :=
  match s with
  | memory records => .ok (records.any fun (k, _) => k == key)
  | directory base tree => (tree.exists? (filePath base key)).mapError .backend

/-- The storage after a restart: records in memory are lost. -/
def reopened : Storage → Storage
  | memory _ => memory []
  | directory base tree => directory base tree

/-- The tree that holds the records. -/
def tree : Storage → FileTree
  | memory _ => .empty
  | directory _ t => t

end Storage

end PacketRelay
