import TemplateMatch.Config
import TemplateMatch.Document
import TemplateMatch.Mismatch
import TemplateMatch.Scope

/-!
Comparing trees in lock-step. Strings of the expected tree, and the names of its fields, are
templates; what they capture is in sight for everything that is compared later.
-/

namespace TemplateMatch

/-- Why a comparison could not be carried out, or how it failed where that is an error. -/
inductive CompareError
  | malformed (side : Side) (cause : Json.ReadError)
  | pattern (path : Pointer) (cause : PatternError)
  | mismatch (report : List Mismatch)

namespace CompareError

def message : CompareError → String
  | malformed side cause => "malformed " ++ side.label ++ " JSON document: " ++ cause.message
  | pattern path cause => "invalid template at " ++ path.display ++ ": " ++ cause.message
  | mismatch report => Mismatch.report report

/-- The message, and that of the cause. -/
def chain (e : CompareError) : List String :=
  match e with
  | malformed _ cause => [e.message, cause.message]
  | pattern _ cause => [e.message, cause.message]
  | mismatch _ => [e.message]

end CompareError

/-- A field of the actual object, and whether an expected field has claimed it. -/
structure Slot where
  name : String
  value : Json.Value
  taken : Bool := false

namespace Slot

def ofFields (fields : List (String × Json.Value)) : List Slot :=
  fields.map fun f => { name := f.1, value := f.2 }

/-- Claims the field at a place. -/
def take (slots : List Slot) (index : Nat) : List Slot :=
  slots.modify index fun s => { s with taken := true }

end Slot

/-- A field that may answer an expected one, and what its name captures. -/
structure Candidate where
  index : Nat
  value : Json.Value
  captures : List (String × String)

namespace Candidate

/-- The place of the field with just this name, if it is free. -/
def own? (key : String) (slots : List Slot) : Option (Slot × Nat) :=
  (slots.zipIdx.find? fun s => s.1.name == key).filter fun s => !s.1.taken

/-- The free fields whose names satisfy a template: first the one with the template's own text for
a name, which need not satisfy it, then the others in order. -/
def list (key : String) (template : Synthesis) (slots : List Slot) : List Candidate :=
  let own := own? key slots
  let first := own.toList.map fun s =>
    { index := s.2, value := s.1.value, captures := (template.captures key).getD [] }
  let others := slots.zipIdx.filterMap fun s =>
    if s.1.taken || own.map Prod.snd == some s.2 then none
    else (template.captures s.1.name).map fun captures =>
      { index := s.2, value := s.1.value, captures }
  first ++ others

end Candidate

/-- What became of an expected field. -/
structure FieldOutcome where
  /-- The place of the field that it claimed. -/
  claimed : Option Nat
  mismatches : List Mismatch
  scope : Scope

namespace Walk

/-- A comparison under a scope: the mismatches, and the scope with what was captured. -/
abbrev Result := Except CompareError (List Mismatch × Scope)

/-- A mismatch that leaves the scope as it is. -/
def mismatch (scope : Scope) (path : Pointer) (kind : MismatchKind) (expected actual : String) :
    Result :=
  .ok ([⟨path, kind, expected, actual⟩], scope)

def synthesize (c : Config) (path : Pointer) (scope : Scope) (template : String) :
    Except CompareError Synthesis :=
  (Synthesis.ofTemplate c.templateOptions scope.bindings template).mapError (.pattern path)

/-- A template against the text of a scalar. -/
def compareText (c : Config) (path : Pointer) (scope : Scope) (template actual : String) : Result :=
  match synthesize c path scope template with
  | .error e => .error e
  | .ok s =>
    match s.captures actual with
    | some captures => .ok ([], scope.bindAll captures)
    | none => mismatch scope path .value template actual

/-- The first candidate without a mismatch. If there is none, the first candidate of all with its
mismatches; and `none` if there are no candidates. Each is tried in the scope at the start. -/
def choose (compare : Scope → Json.Value → Result) (scope : Scope) :
    Option FieldOutcome → List Candidate → Except CompareError (Option FieldOutcome)
  | fallback, [] => .ok fallback
  | fallback, c :: cs =>
    match compare (scope.bindAll c.captures) c.value with
    | .error e => .error e
    | .ok ([], after) => .ok (some ⟨some c.index, [], after⟩)
    | .ok (ms, _) => choose compare scope (fallback <|> some ⟨some c.index, ms, scope⟩) cs

/-- Finds the field that answers an expected one, whose value `compare` compares. -/
def settle (c : Config) (path : Pointer) (key : String)
    (compare : Scope → Json.Value → Result) (slots : List Slot) (scope : Scope) :
    Except CompareError FieldOutcome :=
  match synthesize c path scope key with
  | .error e => .error e
  | .ok template =>
    match choose compare scope none (Candidate.list key template slots) with
    | .error e => .error e
    | .ok (some outcome) => .ok outcome
    | .ok none => .ok ⟨none, [⟨path, .missingField, key, Mismatch.absent⟩], scope⟩

/-- A mismatch for each field that nothing has claimed. -/
def unexpected (path : Pointer) (slots : List Slot) : List Mismatch :=
  (slots.filter fun s => !s.taken).map fun s =>
    ⟨path.child (.field s.name), .unexpectedField, Mismatch.absent, s.name⟩

/-- Neither side is an array or an object facing its like. -/
def compareLeaf (c : Config) (path : Pointer) (scope : Scope) (expected actual : Json.Value) :
    Result :=
  match expected, actual with
  | .null, .null => .ok ([], scope)
  | .string template, actual =>
    match actual.scalarText? with
    | some text => compareText c path scope template text
    | none => mismatch scope path .type expected.typeLabel actual.typeLabel
  | .number m, .number n =>
    if m.eqv n then .ok ([], scope) else mismatch scope path .value m.text n.text
  | .bool a, .bool b =>
    if a = b then .ok ([], scope)
    else mismatch scope path .value (if a then "true" else "false") (if b then "true" else "false")
  | expected, actual => mismatch scope path .type expected.typeLabel actual.typeLabel

mutual

def compareNode (c : Config) (path : Pointer) (scope : Scope) :
    Json.Value → Json.Value → Result
  | .object expected, .object actual =>
    let exact (key : String) : Bool := actual.any fun f => f.1 == key
    match compareFields c path exact expected (Slot.ofFields actual) scope with
    | .error e => .error e
    | .ok (named, slots, scope) =>
      match compareFields c path (fun key => !exact key) expected slots scope with
      | .error e => .error e
      | .ok (templated, slots, scope) =>
        let inOrder := (List.zipWith (· ++ ·) named templated).flatten
        let extra := if c.fieldMode = .strict then unexpected path slots else []
        .ok (inOrder ++ extra, scope)
  | .array expected, .array actual =>
    match compareItems c path 0 scope expected actual with
    | .error e => .error e
    | .ok (ms, scope) =>
      if expected.length = actual.length then .ok (ms, scope)
      else
        .ok (⟨path, .length, toString expected.length, toString actual.length⟩ :: ms, scope)
  | expected, actual => compareLeaf c path scope expected actual

/-- Items by their places, as far as both arrays go. -/
def compareItems (c : Config) (path : Pointer) (index : Nat) (scope : Scope) :
    List Json.Value → List Json.Value → Result
  | e :: es, a :: as =>
    match compareNode c (path.child (.item index)) scope e a with
    | .error err => .error err
    | .ok (ms, scope) =>
      match compareItems c path (index + 1) scope es as with
      | .error err => .error err
      | .ok (more, scope) => .ok (ms ++ more, scope)
  | _, _ => .ok ([], scope)

/-- The expected fields that are wanted, in order, each with its mismatches. A field that is not
wanted has none here. -/
def compareFields (c : Config) (path : Pointer) (wanted : String → Bool) :
    List (String × Json.Value) → List Slot → Scope →
      Except CompareError (List (List Mismatch) × List Slot × Scope)
  | [], slots, scope => .ok ([], slots, scope)
  | (key, value) :: fields, slots, scope =>
    if wanted key then
      let at_ := path.child (.field key)
      match settle c at_ key (fun scope actual => compareNode c at_ scope value actual) slots
        scope with
      | .error e => .error e
      | .ok outcome =>
        let slots := match outcome.claimed with
          | some index => Slot.take slots index
          | none => slots
        match compareFields c path wanted fields slots outcome.scope with
        | .error e => .error e
        | .ok (more, slots, scope) => .ok (outcome.mismatches :: more, slots, scope)
    else
      match compareFields c path wanted fields slots scope with
      | .error e => .error e
      | .ok (more, slots, scope) => .ok ([] :: more, slots, scope)

end

/-- A walk passes with what it captured if it found no mismatch. -/
def finish : List Mismatch × Scope → Comparison
  | ([], scope) => .passed scope.pending
  | (ms, _) => .failed ms

end Walk

namespace Comparison

/-- Compares two documents as trees. -/
def ofJson (c : Config) (symbols : SymbolTable) (expected actual : Document) :
    Except CompareError Comparison :=
  match expected.tree with
  | .error e => .error (.malformed .expected e)
  | .ok expected =>
    match actual.tree with
    | .error e => .error (.malformed .actual e)
    | .ok actual =>
      (Walk.compareNode c .root (.ofTable symbols) expected actual).map Walk.finish

/-- Compares two documents as a template and a text. -/
def ofText (c : Config) (symbols : SymbolTable) (expected actual : Document) :
    Except CompareError Comparison :=
  (Walk.compareText c .root (.ofTable symbols) expected.wholeText actual.wholeText).map Walk.finish

def ofDocuments (c : Config) (symbols : SymbolTable) (type : ContentType)
    (expected actual : Document) : Except CompareError Comparison :=
  match type with
  | .json => ofJson c symbols expected actual
  | .text => ofText c symbols expected actual

end Comparison

end TemplateMatch
