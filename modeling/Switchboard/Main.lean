import Switchboard.Server.Rpc
/-!
# The command

The command serves remote calls over its standard input and output: each line is the
body of a request, and is answered by a line unless there is nothing to answer. Options
set the server up:

    --custom-operations-location FILE
    --operation-timeout-ms MILLISECONDS
    --max-concurrent-operations COUNT
-/

namespace Switchboard

namespace Command

/-- What the command's options ask for. -/
structure Options where
  location : Option String := none
  settings : Settings := {}

/-- The options that some arguments write. -/
def Options.ofArguments (options : Options) : List String → Except String Options
  | [] => .ok options
  | "--custom-operations-location" :: file :: rest =>
    { options with location := some file }.ofArguments rest
  | "--operation-timeout-ms" :: n :: rest =>
    match n.toNat? with
    | some n => { options with settings.callTimeout := n }.ofArguments rest
    | none => .error ("not a number: " ++ n)
  | "--max-concurrent-operations" :: n :: rest =>
    match n.toNat? with
    | some n => { options with settings.maxConcurrentCalls := n }.ofArguments rest
    | none => .error ("not a number: " ++ n)
  | other :: _ => .error ("unexpected argument: " ++ other)

/-- Random bits for the looks of a request's calls, cut from random bytes. -/
def randomBits (bytes : ByteArray) (i : Nat) : Nat :=
  let chunk := (List.range 16).map fun k => bytes[(16 * i + k) % bytes.size]?.getD 0
  chunk.foldl (fun n b => n * 256 + b.toNat) 0

/-- The definitions that a server is to be started with: those of a file that is named,
or of the one that has the usual name if it is there. -/
def readDefinitions (location : Option String) : IO DefinitionsFile := do
  let path := location.getD "custom-operations.json"
  try
    return .found path (← IO.FS.readBinFile path).toList
  catch e =>
    return if location.isSome then .unreadable path (toString e) else .absent

/-- Answers requests line by line until there are no more. -/
partial def serve (input output : IO.FS.Stream) (s : Server) : IO Unit := do
  let line ← input.getLine
  if line.isEmpty then return
  let bytes ← IO.getRandomBytes 4096
  let (answer, s) := Rpc.answer none line.toUTF8.toList { s with randomBits := randomBits bytes }
  if let some (some v) := answer then
    output.putStrLn v.text
    output.flush
  serve input output s

/-- Sets a server up, serves, and shuts the server down. Without its custom operations
it serves all the same. -/
def run (options : Options) : IO UInt32 := do
  let definitions ← readDefinitions options.location
  let (started, s) := (Server.new { options.settings with definitions } (fun _ => 0)).start
  if let .error e := started then
    let reasons := String.intercalate ": " (e.message :: e.cause.chain)
    (← IO.getStderr).putStrLn ("custom operations disabled: " ++ reasons)
  serve (← IO.getStdin) (← IO.getStdout) { s with health := s.health.setReady }
  return 0

end Command

end Switchboard

/-- The command's entry point. -/
def main (arguments : List String) : IO UInt32 := do
  match Switchboard.Command.Options.ofArguments {} arguments with
  | .ok options => Switchboard.Command.run options
  | .error message =>
    (← IO.getStderr).putStrLn message
    return 2
