import TemplateMatch.Command.Run

/-! The program: it reads arguments, variables, files and standard input, and writes the outcome. -/

open TemplateMatch TemplateMatch.Command

/-- The content of a file, or why there is none. -/
def readBytes (path : String) : IO (Except ReadFailure ByteArray) := do
  try
    return .ok (← IO.FS.readBinFile path)
  catch
    | .noFileOrDirectory .. => return .error .notFound
    | e => return .error (.other (toString e))

/-- All of standard input. -/
partial def readInput (stream : IO.FS.Stream) (done : ByteArray) : IO ByteArray := do
  let block ← stream.read 65536
  if block.isEmpty then return done else readInput stream (done ++ block)

def variableNames : List String :=
  ["FIELD_MODE", "CASE_INSENSITIVE", "PLACEHOLDER_START", "PLACEHOLDER_END",
    "TEMPLATE_MODE"].map Config.varName

/-- What a request may read, read beforehand. -/
def surroundings (r : Request) : IO Surroundings := do
  let settings ← variableNames.filterMapM fun name => do
    return (← IO.getEnv name).map fun value => (name, value)
  let files ← r.paths.mapM fun path => do return (path, ← readBytes path)
  let input ← if r.readsInput then readInput (← IO.getStdin) .empty else pure .empty
  return {
    setting := fun name => settings.lookup name
    file := fun path => (files.lookup path).getD (.error .notFound)
    input := .ok input }

def usage : String :=
  "usage: template-match [--log-level LEVEL] compare --expected FILE [--actual FILE]\n" ++
  "         [--json | --text] [--strict | --lenient] [--case-sensitive]\n" ++
  "         [--template-mode MODE] [--symbols FILE] [--format human|json]\n" ++
  "         [--placeholder-start TEXT] [--placeholder-end TEXT]\n" ++
  "       template-match [--log-level LEVEL] resolve --template TEXT --symbols FILE [--quoted]\n" ++
  "         [--placeholder-start TEXT] [--placeholder-end TEXT]\n"

def main (args : List String) : IO UInt32 := do
  match Invocation.ofArgs args with
  | .error e =>
    match e with
    | .displayHelp => IO.print usage
    | .displayVersion => IO.println "template-match 0.1.0"
    | _ => IO.eprint usage
    return e.exitCode.toUInt32
  | .ok invocation =>
    let outcome := invocation.request.run (← surroundings invocation.request)
    IO.print outcome.output
    (← IO.getStdout).flush
    for text in outcome.errors do IO.eprintln text
    return outcome.exitCode.toUInt32
