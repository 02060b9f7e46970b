-- The program. It reads the files and variables that a command asks for, runs it, and prints what it says.
import CatalogGate.Command.Run

namespace CatalogGate.Main

open Command

/-- The code of an error, which is sometimes counted down from zero. -/
def codeOf (code : UInt32) : UInt32 := if 0x80000000 ≤ code then 0 - code else code

/-- Why a file could not be read. -/
def faultOf (e : IO.Error) : Files.Fault :=
  match e with
  | .noFileOrDirectory _ _ _ => .missing
  | .inappropriateType _ code _ => if codeOf code = 21 then .isFolder else .notFolder
  | .permissionDenied _ _ _ => .other "Permission denied (os error 13)"
  | _ => .other (toString e)

def readFile (path : String) : IO (Except Files.Fault ByteArray) := do
  try
    return .ok (← IO.FS.readBinFile path)
  catch e =>
    return .error (faultOf e)

/-- The contents of files, read in advance. -/
def readFiles (paths : List String) : IO Files.Reader := do
  let contents ← paths.mapM fun path => do return (path, ← readFile path)
  return fun path => (contents.lookup path).getD (.error .missing)

def readEnvironment : IO (String → Option String) := do
  let values ← variableNames.mapM fun name => do return (name, ← IO.getEnv name)
  return fun name => (values.lookup name).join

/-- Reads until the input ends. -/
partial def awaitEnd (input : IO.FS.Stream) : IO Unit := do
  let line ← input.getLine
  if line.isEmpty then return
  awaitEnd input

/-- Serves until the input of the program ends. -/
def serve (world : World) (settings : ServeSettings) : IO UInt32 := do
  let (filter, complaints) := Serve.filterOf world.environment settings
  IO.eprint (Text.ofLines complaints)
  let (events, failure) := Serve.start world.read world.bind settings
  IO.print (Text.ofLines (Serve.linesOf filter settings.logFormat events))
  (← IO.getStdout).flush
  match failure with
  | some (exit, error) =>
    IO.eprintln s!"error: {error}"
    return exit.toUInt32
  | none =>
    awaitEnd (← IO.getStdin)
    IO.print (Text.ofLines
      (Serve.linesOf filter settings.logFormat [Serve.addressEvent "shutdown" settings.listen]))
    return 0

end CatalogGate.Main

open CatalogGate in
def main (arguments : List String) : IO UInt32 := do
  let environment ← Main.readEnvironment
  let command := Command.read environment arguments
  let read ← Main.readFiles (match command with | .ok c => c.paths | .error _ => [])
  let world : Command.World := ⟨read, fun _ => .ok (), environment⟩
  match command with
  | .ok (.serve settings) => Main.serve world settings
  | _ =>
    let result := Command.run world arguments
    IO.print result.output
    IO.eprint result.errors
    return result.exit.toUInt32
