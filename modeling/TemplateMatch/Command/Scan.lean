import TemplateMatch.Command.Option

/-!
Scanning arguments from the left. An option whose value is a separate argument is settled when the
next option begins or the arguments end, so an unknown argument right behind it is reported first.
-/

namespace TemplateMatch.Command

/-- The options given so far. -/
structure Scan where
  /-- Names with values; a flag has the empty value. -/
  given : List (String × String) := []
  /-- The last option with a separate value, and that value once it is there. -/
  pending : Option (String × ValueKind × Option String) := none
  /-- Whether two hyphens have ended the options. -/
  trailing : Bool := false

namespace Scan

/-- Whether the next argument may be the value of the pending option. -/
def awaitsValue (s : Scan) : Bool :=
  match s.pending with
  | some (_, _, none) => true
  | _ => false

/-- Gives an option that may be given once. -/
def give (s : Scan) (name value : String) (check : Except UsageError Unit) :
    Except UsageError Scan :=
  if (s.given.lookup name).isSome then .error .argumentConflict
  else match check with
    | .error e => .error e
    | .ok () => .ok { s with given := s.given ++ [(name, value)] }

/-- Settles the pending option; it needs its value. -/
def settle (s : Scan) : Except UsageError Scan :=
  match s.pending with
  | none => .ok s
  | some (_, _, none) => .error .invalidValue
  | some (name, kind, some value) =>
    { s with pending := none }.give name value (kind.check value)

/-- An option with the value that is attached to it, if any. -/
def option (s : Scan) (spec : OptionSpec) (attached : Option String) : Except UsageError Scan :=
  match spec.action, attached with
  | .value kind, none => do
    let s ← s.settle
    return { s with pending := some (spec.name, kind, none) }
  | .value kind, some value => do
    let s ← s.settle
    s.give spec.name value (kind.check value)
  | _, some _ => .error .tooManyValues
  | .flag, none => do
    let s ← s.settle
    s.give spec.name "" (.ok ())
  | .help, none => do
    let _ ← s.settle
    .error .displayHelp
  | .version, none => do
    let _ ← s.settle
    .error .displayVersion

/-- The name and the attached value of a long option without its hyphens. -/
def cutValue (body : List Char) : String × Option String :=
  match body.dropWhile (· != '=') with
  | [] => (String.ofList body, none)
  | _ :: value => (String.ofList (body.takeWhile (· != '=')), some (String.ofList value))

/-- An argument that is no option and no value. -/
def stray (level : Level) (s : Scan) (arg : String) : UsageError :=
  if level.subcommands.isEmpty then .unknownArgument
  else if s.trailing && level.subcommands.contains arg then .unknownArgument
  else .invalidSubcommand

/-- A value for the pending option, or a stray argument. -/
def plain (level : Level) (s : Scan) (arg : String) : Except UsageError Scan :=
  match s.pending with
  | some (name, kind, none) => .ok { s with pending := some (name, kind, some arg) }
  | _ => .error (s.stray level arg)

/-- An argument before the options have ended. -/
def argument (level : Level) (s : Scan) (arg : String) : Except UsageError Scan :=
  match arg.toList with
  | ['-', '-'] => .ok { s with trailing := true }
  | '-' :: '-' :: body =>
    let (name, attached) := cutValue body
    match level.find? name with
    | some spec => s.option spec attached
    | none => .error .unknownArgument
  | '-' :: letter :: _ =>
    match level.ofLetter? letter with
    | some spec => s.option spec none
    | none => .error .unknownArgument
  | _ => s.plain level arg

/-- Scans to the end, or to a subcommand, which is returned with the arguments behind it. -/
def all (level : Level) (s : Scan) : List String →
    Except UsageError (Scan × Option (String × List String))
  | [] => .ok (s, none)
  | arg :: args =>
    if s.trailing then .error (s.stray level arg)
    else if !s.awaitsValue && level.subcommands.contains arg then .ok (s, some (arg, args))
    else match s.argument level arg with
      | .error e => .error e
      | .ok s => all level s args

def value? (s : Scan) (name : String) : Option String := s.given.lookup name

def has (s : Scan) (name : String) : Bool := (s.value? name).isSome

end Scan

end TemplateMatch.Command
