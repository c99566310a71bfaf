import TemplateMatch.LogLevel
import TemplateMatch.Template.Mode

/-! The options of the commands, and the values they take. -/

namespace TemplateMatch.Command

/-- Why arguments are not carried out: a request for information, or a mistake. -/
inductive UsageError
  | displayHelp
  | displayVersion
  /-- There are no arguments at all. -/
  | helpOnMissing
  | unknownArgument
  | invalidSubcommand
  | missingSubcommand
  | invalidValue
  | valueValidation
  | tooManyValues
  | argumentConflict
  | missingRequired
deriving DecidableEq, Repr

/-- Help and version are answers, all else is a failure. -/
def UsageError.exitCode : UsageError → Nat
  | .displayHelp | .displayVersion => 0
  | _ => 2

/-- What is accepted as the value of an option. -/
inductive ValueKind
  | path
  | text
  | logLevel
  | templateMode
  | format
deriving DecidableEq, Repr

namespace ValueKind

/-- A path is not empty, and words are among those that are known. -/
def check (kind : ValueKind) (value : String) : Except UsageError Unit :=
  match kind with
  | path => if value = "" then .error .invalidValue else .ok ()
  | text => .ok ()
  | logLevel => (LogLevel.ofLabel value).map (fun _ => ()) |>.mapError fun _ => .valueValidation
  | templateMode =>
    (TemplateMode.ofLabel value).map (fun _ => ()) |>.mapError fun _ => .valueValidation
  | format => if value = "human" ∨ value = "json" then .ok () else .error .invalidValue

end ValueKind

/-- What an option does. -/
inductive Action
  /-- It is given or not. -/
  | flag
  | value (kind : ValueKind)
  | help
  | version
deriving DecidableEq, Repr

/-- An option by its long name. -/
structure OptionSpec where
  name : String
  action : Action

/-- The options of a command, and its subcommands. -/
structure Level where
  options : List OptionSpec
  subcommands : List String

namespace Level

def find? (level : Level) (name : String) : Option OptionSpec :=
  level.options.find? fun o => o.name == name

/-- The option that a single letter abbreviates. -/
def ofLetter? (level : Level) (letter : Char) : Option OptionSpec :=
  if letter = 'h' then level.find? "help"
  else if letter = 'V' then level.find? "version"
  else none

def logLevelOption : OptionSpec := ⟨"log-level", .value .logLevel⟩

def delimiterOptions : List OptionSpec :=
  [⟨"placeholder-start", .value .text⟩, ⟨"placeholder-end", .value .text⟩]

def main : Level where
  options := [logLevelOption, ⟨"help", .help⟩, ⟨"version", .version⟩]
  subcommands := ["compare", "resolve", "help"]

def compare : Level where
  options := [
    ⟨"expected", .value .path⟩, ⟨"actual", .value .path⟩, ⟨"json", .flag⟩, ⟨"text", .flag⟩,
    ⟨"strict", .flag⟩, ⟨"lenient", .flag⟩, ⟨"case-sensitive", .flag⟩,
    ⟨"template-mode", .value .templateMode⟩, ⟨"symbols", .value .path⟩,
    ⟨"format", .value .format⟩] ++ delimiterOptions ++ [logLevelOption, ⟨"help", .help⟩]
  subcommands := []

def resolve : Level where
  options := [
    ⟨"template", .value .text⟩, ⟨"symbols", .value .path⟩, ⟨"quoted", .flag⟩] ++
    delimiterOptions ++ [logLevelOption, ⟨"help", .help⟩]
  subcommands := []

end Level

end TemplateMatch.Command
