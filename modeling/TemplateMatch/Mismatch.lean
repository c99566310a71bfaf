import TemplateMatch.Json.Writer
import TemplateMatch.Pointer
import TemplateMatch.SymbolTable

/-! Differences between documents, and how the outcome of a comparison is reported. -/

namespace TemplateMatch

inductive MismatchKind
  | value
  | type
  | missingField
  | unexpectedField
  | length
deriving DecidableEq, Repr

namespace MismatchKind

def label : MismatchKind → String
  | value => "value"
  | type => "type"
  | missingField => "missing field"
  | unexpectedField => "unexpected field"
  | length => "length"

/-- The label as a single word. -/
def word : MismatchKind → String
  | value => "value"
  | type => "type"
  | missingField => "missing_field"
  | unexpectedField => "unexpected_field"
  | length => "length"

end MismatchKind

/-- A difference at a node of the expected document, with both sides as text. -/
structure Mismatch where
  path : Pointer
  kind : MismatchKind
  expected : String
  actual : String
deriving DecidableEq, Repr

namespace Mismatch

/-- Stands for the side that has no such field. -/
def absent : String := "<absent>"

def display (m : Mismatch) : String :=
  m.kind.label ++ " mismatch at " ++ m.path.display ++ ": expected `" ++ m.expected ++
    "`, actual `" ++ m.actual ++ "`"

def toJson (m : Mismatch) : Json.Value :=
  .object [("path", .string m.path.text), ("kind", .string m.kind.word),
    ("expected", .string m.expected), ("actual", .string m.actual)]

/-- A heading with their number, and a line for each. -/
def report (ms : List Mismatch) : String :=
  let noun := if ms.length = 1 then "mismatch" else "mismatches"
  "documents differ (" ++ toString ms.length ++ " " ++ noun ++ "):" ++
    String.join (ms.map fun m => "\n  - " ++ m.display)

end Mismatch

/-- The entries as one JSON object. -/
def IndexedEntries.toJson (t : IndexedEntries) : Json.Value :=
  .object (t.entries.map fun entry => (entry.1, .string entry.2))

def SymbolTable.toJson (t : SymbolTable) : Json.Value := t.toIndexedEntries.toJson

/-- The outcome of a comparison. -/
inductive Comparison
  /-- The documents match, and these symbols were captured. -/
  | passed (captured : SymbolTable)
  | failed (mismatches : List Mismatch)

namespace Comparison

def isMatch : Comparison → Bool
  | passed _ => true
  | failed _ => false

def mismatches : Comparison → List Mismatch
  | passed _ => []
  | failed ms => ms

def captured : Comparison → SymbolTable
  | passed symbols => symbols
  | failed _ => .empty

def display : Comparison → String
  | passed symbols => "documents match (" ++ toString symbols.size ++ " symbols captured)"
  | failed ms => Mismatch.report ms

def toJson (c : Comparison) : Json.Value :=
  .object [("mismatches", .array (c.mismatches.map Mismatch.toJson)),
    ("captured", c.captured.toJson)]

end Comparison

end TemplateMatch
