import TemplateMatch.Json.Reader
import TemplateMatch.Json.Writer

/-! Documents: opaque text, or a tree. -/

namespace TemplateMatch

/-- How both documents of a comparison are taken. -/
inductive ContentType
  | json
  | text
deriving DecidableEq, Repr

inductive Side
  | expected
  | actual
deriving DecidableEq, Repr

def Side.label : Side → String
  | .expected => "expected"
  | .actual => "actual"

inductive Document
  | text (content : String)
  | json (tree : Json.Value)

namespace Document

/-- The document that a JSON text holds. -/
def readJson (content : String) : Except Json.ReadError Document :=
  (Json.Value.read content).map .json

/-- The tree of the document; text is read as JSON. -/
def tree : Document → Except Json.ReadError Json.Value
  | text content => Json.Value.read content
  | json tree => .ok tree

/-- The document as one text: a scalar's own text, or the tree written without spaces. -/
def wholeText : Document → String
  | text content => content
  | json tree => tree.scalarText?.getD tree.compact

/-- The document as a tree; text becomes a string. -/
def toValue : Document → Json.Value
  | text content => .string content
  | json tree => tree

def display : Document → String
  | text content => content
  | json tree => tree.compact

end Document

end TemplateMatch
