import ManifestCheck.CommandLine

/-!
# The program

Reads what the arguments name and leaves the rest to the command line's own rules. The complaint, if
there is one, goes to standard error.
-/

namespace ManifestCheck.Main

/-- All that a stream still has. -/
partial def readAll (stream : IO.FS.Stream) (bytes : ByteArray) : IO ByteArray := do
  let more ← stream.read 65536
  if more.isEmpty then return bytes
  readAll stream (bytes ++ more)

/-- The outcome of an action, or nothing if it fails. -/
def attempt {α : Type} (action : IO α) : IO (Option α) := do
  try
    return some (← action)
  catch _ =>
    return none

def readFile (path : String) : IO (String × Option (List UInt8)) := do
  let bytes ← attempt (IO.FS.readBinFile path)
  return (path, bytes.map ByteArray.toList)

/-- The surroundings as far as a request looks at them. -/
def surroundings (r : CommandLine.Request) : IO CommandLine.Surroundings := do
  let files ← r.files.mapM readFile
  let input ←
    if r.readsInput then attempt (do readAll (← IO.getStdin) ByteArray.empty)
    else pure (some ByteArray.empty)
  let depth ← IO.getEnv depthVariable
  return {
    file := fun path => (files.lookup path).join
    input := input.map ByteArray.toList
    lookup := fun name => if name = depthVariable then depth else none }

end ManifestCheck.Main

open ManifestCheck in
def main (arguments : List String) : IO UInt32 := do
  let outcome ← match CommandLine.Request.ofArguments arguments with
    | .error e => pure (CommandLine.RunResult.failure e.message)
    | .ok r => do
      let s ← Main.surroundings r
      pure (r.run s)
  if outcome.complaint ≠ "" then IO.eprintln outcome.complaint
  IO.print outcome.output
  return UInt32.ofNat outcome.exitCode
