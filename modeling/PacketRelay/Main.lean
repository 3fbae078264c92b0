/-
  The program: it reads the command line, the variables and the files that the settings name, and
  prints what comes of the command.
-/
import PacketRelay.Command.Run

namespace PacketRelay

/-- Copies what stands at a path on the disk into a tree; what cannot be read is left out. -/
partial def copyInto (t : FileTree) (p : Path) : IO FileTree := do
  try
    let place ← IO.FS.realPath p.text
    if ← place.isDir then
      let t := (t.createFolders p).toOption.getD t
      (← place.readDir).foldlM (fun t entry => copyInto t (p.join ⟨entry.fileName⟩)) t
    else
      pure (t.install p (← IO.FS.readBinFile p.text).toList)
  catch _ => pure t

/-- The values of the variables that a text refers to. -/
def variablesIn (s : String) : IO Environment := do
  let values ← (Piece.names s).mapM fun name => do pure (name, ← IO.getEnv name)
  pure fun name => (values.lookup name).join

/-- Runs a command line on the files of the disk. -/
def runOnDisk (words : List String) : IO Outcome := do
  match Arguments.parse words with
  | .error refusal => pure (.ofRefusal refusal)
  | .ok a => do
    let settings ← copyInto .empty a.settings
    let text := ((settings.read a.settings).toOption.map Utf8.decodeLossy).getD ""
    let env ← variablesIn text
    let folders := match Config.load env settings a.settings with
      | .ok c => Arguments.sources c
      | .error _ => []
    pure (Arguments.execute words env (← folders.foldlM copyInto settings))

end PacketRelay

/-- Runs the program. -/
def main (words : List String) : IO UInt32 := do
  let outcome ← PacketRelay.runOnDisk words
  IO.print outcome.output
  match outcome.error with
  | some e => IO.eprintln ("Error: " ++ e.message)
  | none => if outcome.exitCode = 2 then IO.eprint PacketRelay.Arguments.usage
  pure outcome.exitCode.toUInt32
