/-! The two texts that mark a placeholder inside a template. -/

namespace TemplateMatch

/-- The texts around a placeholder's name. Neither may be empty. -/
structure Delimiters where
  start : String
  stop : String
  start_ne : start ≠ ""
  stop_ne : stop ≠ ""
deriving DecidableEq

inductive DelimiterError
  | emptyStart
  | emptyStop
deriving DecidableEq

def DelimiterError.message : DelimiterError → String
  | .emptyStart => "start delimiter is empty"
  | .emptyStop => "end delimiter is empty"

namespace Delimiters

/-- The pair of two texts; the start is checked first. -/
def ofTexts (start stop : String) : Except DelimiterError Delimiters :=
  if hs : start = "" then .error .emptyStart
  else if ht : stop = "" then .error .emptyStop
  else .ok ⟨start, stop, hs, ht⟩

def standard : Delimiters := ⟨"~[", "]", by decide, by decide⟩

instance : Inhabited Delimiters := ⟨standard⟩

/-- A placeholder as it is written in a template. -/
def enclose (d : Delimiters) (name : String) : String := d.start ++ name ++ d.stop

/-- Shows both delimiters around the word "name". -/
def display (d : Delimiters) : String := d.enclose "name"

theorem ofTexts_self (d : Delimiters) : ofTexts d.start d.stop = .ok d := by
  simp [ofTexts, d.start_ne, d.stop_ne]

end Delimiters

end TemplateMatch
