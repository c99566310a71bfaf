import TemplateMatch.Scenario

/-! Comparing with a value that is supplied again until it matches or time is up. -/

namespace TemplateMatch

/-- Times in milliseconds. -/
structure PollPolicy where
  timeout : Nat := 30000
  interval : Nat := 1000
deriving DecidableEq, Repr

/-- What the supplier gave, and the time since the start when that had been compared. -/
structure Attempt where
  supplied : Except String String
  elapsed : Nat

inductive PollError
  /-- The supplier failed at the last attempt. -/
  | supplier (attempts : Nat) (cause : String)
  | compare (cause : CompareError)

def PollError.message : PollError → String
  | .supplier attempts cause =>
      "actual value supplier failed after " ++ toString attempts ++ " attempts: " ++ cause
  | .compare cause => cause.message

/-- How a poll ended. -/
structure PollOutcome where
  result : Except PollError Comparison
  attempts : Nat
  scenario : Scenario

namespace PollPolicy

/-- The readings of the clock after each attempt when only the supplier's delays and the pauses
take time. -/
def readings (policy : PollPolicy) (now : Nat) : List Nat → List Nat
  | [] => []
  | delay :: delays =>
    let elapsed := now + delay
    elapsed :: readings policy (elapsed + min policy.interval (policy.timeout - elapsed)) delays

end PollPolicy

namespace Scenario

/-- Whether another attempt cannot change an outcome: the documents match, or the expected one is
at fault. -/
def isFinal : Except PollError Comparison → Bool
  | .ok c => c.isMatch
  | .error (.compare (.malformed .actual _)) => false
  | .error (.compare _) => true
  | .error (.supplier _ _) => false

/-- The outcome of the attempt with this number, and the scenario after it. -/
def attempt (s : Scenario) (type : ContentType) (expected : Document) (number : Nat) :
    Except String String → Except PollError Comparison × Scenario
  | .error cause => (.error (.supplier number cause), s)
  | .ok actual =>
    let (outcome, after) := s.compare type expected (.text actual)
    (outcome.mapError .compare, after)

/-- Attempts from this number on; `none` if they run out first. -/
def pollFrom (s : Scenario) (type : ContentType) (expected : Document) (policy : PollPolicy)
    (number : Nat) : List Attempt → Option PollOutcome
  | [] => none
  | a :: rest =>
    let (outcome, after) := s.attempt type expected number a.supplied
    if isFinal outcome || policy.timeout ≤ a.elapsed then some ⟨outcome, number, after⟩
    else pollFrom after type expected policy (number + 1) rest

def poll (s : Scenario) (type : ContentType) (expected : Document) (policy : PollPolicy)
    (attempts : List Attempt) : Option PollOutcome :=
  s.pollFrom type expected policy 1 attempts

end Scenario

end TemplateMatch
