/-! The flags of an expression, and the items that switch them inside it. -/

namespace TemplateMatch.Regex

inductive Flag
  | ignoreCase
  | multiLine
  | dotAll
  | swapGreed
  | unicode
  | crlf
  | spaced
deriving DecidableEq, Repr

def Flag.ofLetter? : Char → Option Flag
  | 'i' => some .ignoreCase
  | 'm' => some .multiLine
  | 's' => some .dotAll
  | 'U' => some .swapGreed
  | 'u' => some .unicode
  | 'R' => some .crlf
  | 'x' => some .spaced
  | _ => none

/-- The sign after which flags are switched off, or a flag. -/
inductive FlagItem
  | off
  | flag (f : Flag)
deriving DecidableEq, Repr

/-- What the flags say where they matter for the meaning. -/
structure Flags where
  ignoreCase : Bool
  multiLine : Bool := true
  dotAll : Bool := true
  swapGreed : Bool := false
  unicode : Bool := true
  crlf : Bool := false
deriving DecidableEq, Repr

namespace Flags

def set (fl : Flags) (value : Bool) : Flag → Flags
  | .ignoreCase => { fl with ignoreCase := value }
  | .multiLine => { fl with multiLine := value }
  | .dotAll => { fl with dotAll := value }
  | .swapGreed => { fl with swapGreed := value }
  | .unicode => { fl with unicode := value }
  | .crlf => { fl with crlf := value }
  | .spaced => fl

def applyFrom (value : Bool) (fl : Flags) : List FlagItem → Flags
  | [] => fl
  | .off :: items => applyFrom false fl items
  | .flag f :: items => applyFrom value (fl.set value f) items

/-- The flags after the items have switched them. -/
def apply (fl : Flags) (items : List FlagItem) : Flags := applyFrom true fl items

end Flags

/-- What the items say about spaced layout, if anything. -/
def FlagItem.spaced? (items : List FlagItem) : Option Bool :=
  match items.dropWhile (· != .flag .spaced) with
  | [] => none
  | _ => some (!(items.takeWhile (· != .flag .spaced)).contains .off)

end TemplateMatch.Regex
