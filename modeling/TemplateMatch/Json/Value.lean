import TemplateMatch.Json.Decimal

/-! JSON trees. -/

namespace TemplateMatch.Json

/-- A whole number from `-2 ^ 63` up to below `2 ^ 64`, or a double. -/
inductive Number
  | integer (n : Int)
  | float (x : Float)
deriving Repr, Inhabited

namespace Number

def toFloat : Number → Float
  | integer n => if n < 0 then -(n.natAbs.toUInt64.toFloat) else n.toNat.toUInt64.toFloat
  | float x => x

/-- The number as a signed word of 64 bits, if it is one. -/
def asInt64? : Number → Option Int64
  | integer n =>
    if -0x8000000000000000 ≤ n ∧ n < 0x8000000000000000 then some (Int64.ofInt n) else none
  | float _ => none

/-- The number as an unsigned word of 64 bits, if it is one. -/
def asUInt64? : Number → Option UInt64
  | integer n => if 0 ≤ n ∧ n < 0x10000000000000000 then some (UInt64.ofNat n.toNat) else none
  | float _ => none

def isFloat : Number → Bool
  | integer _ => false
  | float _ => true

/-- Two signed or two unsigned words are compared as such; with a double on either side both are
taken as doubles. A negative number and one from `2 ^ 63` up have no word in common and differ. -/
def eqv (a b : Number) : Bool :=
  match a.asInt64?, b.asInt64? with
  | some m, some n => m == n
  | _, _ =>
    match a.asUInt64?, b.asUInt64? with
    | some m, some n => m == n
    | _, _ => if a.isFloat || b.isFloat then a.toFloat == b.toFloat else false

def text : Number → String
  | integer n => toString n
  | float x => floatText x

end Number

/-- A tree. The fields of an object have an order. -/
inductive Value
  | null
  | bool (b : Bool)
  | number (n : Number)
  | string (s : String)
  | array (items : List Value)
  | object (fields : List (String × Value))
deriving Repr, Inhabited

namespace Value

/-- The text of a string, a number or a boolean. -/
def scalarText? : Value → Option String
  | string s => some s
  | number n => some n.text
  | bool b => some (if b then "true" else "false")
  | _ => none

def typeLabel : Value → String
  | null => "null"
  | bool _ => "boolean"
  | number _ => "number"
  | string _ => "string"
  | array _ => "array"
  | object _ => "object"

end Value

end TemplateMatch.Json
