import TemplateMatch.Command.Run
import TemplateMatch.Proofs.Entries
import TemplateMatch.Proofs.Json.Written

/-!
Symbols that are written as JSON, on their own or within the report of a comparison, are loaded
again as they were (`loadSymbols_export`). The reports of comparisons are read back as well.
-/

namespace TemplateMatch

open Json

theorem SymbolTable.ofPairs_entries (t : SymbolTable) : ofPairs t.entries = t := by
  ext1
  rw [entries_ofPairs, lastWriteWins_of_nodup t.nodup]

theorem SymbolTable.writable_toJson (t : SymbolTable) (d : Nat) :
    Value.Writable (d + 1) t.toJson := by
  refine .object ?_ fun f hf => ?_
  · have hkeys := t.nodup
    rwa [List.map_map]
  · obtain ⟨e, _, rfl⟩ := List.mem_map.mp hf
    exact .string e.2

theorem Mismatch.writable_toJson (m : Mismatch) (d : Nat) : Value.Writable (d + 1) m.toJson := by
  refine .object (by simp) fun f hf => ?_
  simp only [List.mem_cons, List.not_mem_nil, or_false] at hf
  obtain rfl | rfl | rfl | rfl := hf <;> exact .string _

theorem Comparison.writable_toJson (c : Comparison) (d : Nat) :
    Value.Writable (d + 3) c.toJson := by
  refine .object (by simp) fun f hf => ?_
  simp only [List.mem_cons, List.not_mem_nil, or_false] at hf
  obtain rfl | rfl := hf
  · refine .array fun v hv => ?_
    obtain ⟨m, _, rfl⟩ := List.mem_map.mp hv
    exact m.writable_toJson d
  · exact c.captured.writable_toJson (d + 1)

namespace Command

/-- The report of a comparison, as JSON, is a JSON text of it. -/
theorem read_render_json (c : Comparison) : Value.read (render .json c) = .ok c.toJson :=
  Value.read_pretty_line (c.writable_toJson 124)

theorem decode_toUTF8 (text : String) : decode text.toUTF8 = .ok text := by
  have hvalid : String.fromUTF8? text.toUTF8 = some text := dif_pos text.isValidUTF8
  rw [decode, hvalid]

theorem symbolsOf_strings (entries : List (String × String)) :
    symbolsOf (entries.map fun e => (e.1, .string e.2)) = .ok entries := by
  induction entries with
  | nil => rfl
  | cons e entries ih =>
    rw [List.map_cons, symbolsOf, ih]
    rfl

/-- After a text has been written to a file. -/
def Surroundings.write (s : Surroundings) (path text : String) : Surroundings :=
  { s with file := fun name => if name = path then .ok text.toUTF8 else s.file name }

/-- A text of the object that a table is written as loads as the table. -/
theorem loadSymbols_write {t : SymbolTable} {text : String} (h : Value.read text = .ok t.toJson)
    (s : Surroundings) (path : String) : loadSymbols (s.write path text) path = .ok t := by
  have hcontent : readDocument (s.write path text) "symbols" path = .ok text := by
    rw [readDocument]
    have hfile : (s.write path text).file path = .ok text.toUTF8 := if_pos rfl
    rw [hfile]
    exact congrArg (Except.mapError _) (decode_toUTF8 text)
  rw [loadSymbols, hcontent]
  simp only [symbolsOfText, h, SymbolTable.toJson, IndexedEntries.toJson, symbolsOf_strings]
  exact congrArg Except.ok t.ofPairs_entries

/-- A table that is written as JSON, in one line or in several, is loaded as the same table. So is
the object that stands under `captured` in the report of a comparison that passed. -/
theorem loadSymbols_export (s : Surroundings) (path : String) :
    (∀ t : SymbolTable, loadSymbols (s.write path t.toJson.compact) path = .ok t ∧
      loadSymbols (s.write path t.toJson.pretty) path = .ok t) ∧
    ∀ captured : SymbolTable, ∃ fields member,
      Value.read (render .json (.passed captured)) = .ok (.object fields) ∧
      fields.lookup "captured" = some member ∧
      loadSymbols (s.write path member.compact) path = .ok captured ∧
      loadSymbols (s.write path member.pretty) path = .ok captured := by
  have htable (t : SymbolTable) : loadSymbols (s.write path t.toJson.compact) path = .ok t ∧
      loadSymbols (s.write path t.toJson.pretty) path = .ok t :=
    ⟨loadSymbols_write (Value.read_compact (t.writable_toJson 126)) s path,
      loadSymbols_write (Value.read_pretty (t.writable_toJson 126)) s path⟩
  exact ⟨htable, fun captured =>
    ⟨_, captured.toJson, read_render_json (.passed captured), rfl, htable captured⟩⟩

end Command

end TemplateMatch
