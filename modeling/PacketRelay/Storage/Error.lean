/-
  Why a stored record cannot be read or written.
-/
import PacketRelay.FileTree

namespace PacketRelay

/-- Why an operation on stored records has failed. -/
inductive StorageError where
  | notFound
  /-- The record at a key is not what it should be. -/
  | corrupt (key reason : String)
  | backend (fault : FileFault)
deriving Repr, DecidableEq

/-- The wording of an error. -/
def StorageError.message : StorageError → String
  | notFound => "Not found"
  | corrupt key reason => "Corrupt record '" ++ key ++ "': " ++ reason
  | backend fault => "Backend error: " ++ fault.message

end PacketRelay
