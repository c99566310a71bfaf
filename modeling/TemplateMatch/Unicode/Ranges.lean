/-! Sets of code points, held as closed ranges and written as hexadecimal text. -/

namespace TemplateMatch.Unicode

/-- Closed ranges of code points. -/
abbrev Ranges := List (Nat × Nat)

namespace Ranges

def contains (rs : Ranges) (n : Nat) : Bool :=
  rs.any fun r => r.1 ≤ n && n ≤ r.2

end Ranges

/-- The value of a hexadecimal digit of either case. -/
def hexDigit? (c : Char) : Option Nat :=
  if '0' ≤ c ∧ c ≤ '9' then some (c.toNat - '0'.toNat)
  else if 'A' ≤ c ∧ c ≤ 'F' then some (c.toNat - 'A'.toNat + 10)
  else if 'a' ≤ c ∧ c ≤ 'f' then some (c.toNat - 'a'.toNat + 10)
  else none

namespace Ranges

/-- The range that ends at a number, if there is one. -/
def upTo (low : Option Nat) (number : Option Nat) : Ranges :=
  number.toList.map fun n => (low.getD n, n)

/-- Reads `41-5A AA`: ranges with blanks between them, a lone number standing for itself. -/
def readFrom (low : Option Nat) (number : Option Nat) : List Char → Ranges
  | [] => upTo low number
  | '-' :: rest => readFrom number none rest
  | c :: rest =>
    match hexDigit? c with
    | some digit => readFrom low (some (number.getD 0 * 16 + digit)) rest
    | none => upTo low number ++ readFrom none none rest

def ofText (text : String) : Ranges := readFrom none none text.toList

end Ranges

end TemplateMatch.Unicode
