import TemplateMatch.SymbolTable

/-! The symbols in sight during a comparison: those it has captured so far over a table. -/

namespace TemplateMatch

structure Scope where
  base : SymbolTable
  /-- What has been captured; it hides the base. -/
  pending : SymbolTable

namespace Scope

def ofTable (base : SymbolTable) : Scope := ⟨base, .empty⟩

def bindings (s : Scope) : Bindings := fun name => s.pending.get? name <|> s.base.get? name

def bindAll (s : Scope) (captures : List (String × String)) : Scope :=
  { s with pending := s.pending.insertAll captures }

theorem bindings_ofTable (table : SymbolTable) : (ofTable table).bindings = table.bindings := by
  funext name
  change (SymbolTable.empty.get? name <|> table.get? name) = _
  rw [SymbolTable.get?_empty]
  rfl

@[simp] theorem bindAll_nil (s : Scope) : s.bindAll [] = s := rfl

@[simp] theorem base_bindAll (s : Scope) (captures : List (String × String)) :
    (s.bindAll captures).base = s.base := rfl

end Scope

end TemplateMatch
