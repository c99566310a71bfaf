import TemplateMatch.Template.Resolution
import TemplateMatch.Walk

/-! Scenarios: settings, and the symbols that the steps so far have bound. -/

namespace TemplateMatch

structure Scenario where
  symbols : SymbolTable
  config : Config

namespace Scenario

def start (config : Config) : Scenario := ⟨.empty, config⟩

/-- What a comparison leaves behind: its captures are bound if it passed. -/
def commit (s : Scenario) : Except CompareError Comparison → Scenario
  | .ok (.passed captured) => { s with symbols := s.symbols.insertAll captured.entries }
  | _ => s

/-- One comparison under the symbols of the scenario. -/
def judge (s : Scenario) (type : ContentType) (expected actual : Document) :
    Except CompareError Comparison :=
  Comparison.ofDocuments s.config s.symbols type expected actual

/-- One comparison, and the scenario after it. -/
def compare (s : Scenario) (type : ContentType) (expected actual : Document) :
    Except CompareError Comparison × Scenario :=
  let outcome := s.judge type expected actual
  (outcome, s.commit outcome)

/-- A comparison whose mismatches are an error. -/
def expect (s : Scenario) (type : ContentType) (expected actual : Document) :
    Except CompareError SymbolTable × Scenario :=
  match s.compare type expected actual with
  | (.ok (.passed captured), after) => (.ok captured, after)
  | (.ok (.failed ms), after) => (.error (.mismatch ms), after)
  | (.error e, after) => (.error e, after)

def resolve (s : Scenario) (substitution : Substitution) (template : String) :
    Except PatternError String :=
  Template.resolve s.config.delimiters s.symbols.bindings substitution template

/-- Binds a symbol, whatever it was bound to. -/
def bind (s : Scenario) (name value : String) : Scenario :=
  { s with symbols := s.symbols.insert name value }

/-- Binds symbols one after the other. -/
def bindAll (s : Scenario) (pairs : List (String × String)) : Scenario :=
  pairs.foldl (fun s pair => s.bind pair.1 pair.2) s

theorem bindAll_eq (s : Scenario) (pairs : List (String × String)) :
    s.bindAll pairs = { s with symbols := s.symbols.insertAll pairs } := by
  induction pairs generalizing s with
  | nil => rfl
  | cons pair pairs ih => exact ih (s.bind pair.1 pair.2)

/-- Forgets all symbols. -/
def reset (s : Scenario) : Scenario := { s with symbols := .empty }

end Scenario

end TemplateMatch
