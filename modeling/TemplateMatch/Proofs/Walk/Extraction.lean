import TemplateMatch.Proofs.Entries
import TemplateMatch.Proofs.Template.Compiled
import TemplateMatch.Template.Resolution
import TemplateMatch.Walk

/-!
Reading symbols out of a text by a template, and comparing the text with the template: both fail on
the same templates, and what a comparison captures when it passes is what is read
(`ofText_eq_extract`).
-/

namespace TemplateMatch

namespace Synthesis

theorem captures_of_names_nil {s : Synthesis} {source : String} {cs : List (String × String)}
    (hnames : s.names = []) (h : s.captures source = some cs) : cs = [] := by
  cases hm : s.matcher with
  | program p =>
    simp only [captures, hm] at h
    obtain ⟨m, _, rfl⟩ := Option.map_eq_some_iff.mp h
    rw [hnames]
    rfl
  | text text ignoreCase =>
    simp only [captures, hm] at h
    split at h
    · exact (Option.some.inj h).symm
    · cases h

end Synthesis

namespace Template

/-- A template without names to read needs no case of its own. -/
theorem extract_of_eq_ok {o : TemplateOptions} {bound : Bindings} {template : String}
    {s : Synthesis} (h : Synthesis.ofTemplate o bound template = .ok s) (source : String) :
    extract o bound template source =
      .ok (((s.captures source).map lastWriteWins).getD []) := by
  simp only [extract, h]
  split
  · next hempty =>
    have hnames := List.isEmpty_iff.mp hempty
    cases hcs : s.captures source with
    | none => rfl
    | some cs =>
      obtain rfl := Synthesis.captures_of_names_nil hnames hcs
      rfl
  · rfl

end Template

namespace Comparison

theorem ofText_of_eq_error {c : Config} {symbols : SymbolTable} {template source : String}
    {cause : PatternError}
    (h : Synthesis.ofTemplate c.templateOptions symbols.bindings template = .error cause) :
    ofText c symbols (.text template) (.text source) = .error (.pattern .root cause) := by
  rw [ofText, Walk.compareText, Walk.synthesize, Scope.bindings_ofTable]
  simp only [Document.wholeText, h]
  rfl

theorem ofText_of_captures {c : Config} {symbols : SymbolTable} {template source : String}
    {s : Synthesis} {cs : List (String × String)}
    (h : Synthesis.ofTemplate c.templateOptions symbols.bindings template = .ok s)
    (hcs : s.captures source = some cs) :
    ofText c symbols (.text template) (.text source) = .ok (.passed (.ofPairs cs)) := by
  rw [ofText, Walk.compareText, Walk.synthesize, Scope.bindings_ofTable]
  simp only [Document.wholeText, h, Except.mapError, hcs]
  rfl

theorem ofText_of_captures_none {c : Config} {symbols : SymbolTable} {template source : String}
    {s : Synthesis}
    (h : Synthesis.ofTemplate c.templateOptions symbols.bindings template = .ok s)
    (hcs : s.captures source = none) :
    ofText c symbols (.text template) (.text source) =
      .ok (.failed [⟨.root, .value, template, source⟩]) := by
  rw [ofText, Walk.compareText, Walk.synthesize, Scope.bindings_ofTable]
  simp only [Document.wholeText, h, Except.mapError, hcs]
  rfl

/-- Both fail on the same templates. -/
theorem ofText_eq_error_iff (c : Config) (symbols : SymbolTable) (template source : String)
    (e : CompareError) :
    ofText c symbols (.text template) (.text source) = .error e ↔
      ∃ cause, e = .pattern .root cause ∧
        Template.extract c.templateOptions symbols.bindings template source = .error cause := by
  cases h : Synthesis.ofTemplate c.templateOptions symbols.bindings template with
  | error cause =>
    rw [ofText_of_eq_error h]
    simp only [Template.extract, h, Except.error.injEq]
    exact ⟨fun he => ⟨cause, he.symm, rfl⟩, fun ⟨_, he, hcause⟩ => hcause ▸ he.symm⟩
  | ok s =>
    have hcarried : ∃ r, ofText c symbols (.text template) (.text source) = .ok r := by
      cases hcs : s.captures source with
      | some cs => exact ⟨_, ofText_of_captures h hcs⟩
      | none => exact ⟨_, ofText_of_captures_none h hcs⟩
    obtain ⟨r, hr⟩ := hcarried
    rw [hr, Template.extract_of_eq_ok h source]
    constructor
    · rintro ⟨⟩
    · rintro ⟨_, _, ⟨⟩⟩

/-- Comparing a text with a template and reading symbols out of it agree, whatever is bound. The one
fails exactly where the other does, at the root and for the same cause. Otherwise the comparison
passes exactly if the template matches, and then it has captured just the pairs that are read, in
their order; if not, none are read. For the lists behind that: the last pair of a name counts in a
merged list, in a table and in a look-up from the end, and the first two have one order. -/
theorem ofText_eq_extract (c : Config) (symbols : SymbolTable) (template source : String) :
    (∀ e, ofText c symbols (.text template) (.text source) = .error e ↔
      ∃ cause, e = .pattern .root cause ∧
        Template.extract c.templateOptions symbols.bindings template source = .error cause) ∧
    (match Synthesis.ofTemplate c.templateOptions symbols.bindings template with
    | .error cause =>
      Template.extract c.templateOptions symbols.bindings template source = .error cause
    | .ok s =>
      if s.isMatch source then
        ∃ captured, ofText c symbols (.text template) (.text source) = .ok (.passed captured) ∧
          Template.extract c.templateOptions symbols.bindings template source =
            .ok captured.entries
      else
        ofText c symbols (.text template) (.text source) =
            .ok (.failed [⟨.root, .value, template, source⟩]) ∧
          Template.extract c.templateOptions symbols.bindings template source = .ok []) ∧
    ∀ captures, (SymbolTable.ofPairs captures).entries = lastWriteWins captures ∧
      ∀ name, (SymbolTable.ofPairs captures).get? name = Bindings.ofPairs captures name ∧
        ∀ value, (name, value) ∈ lastWriteWins captures ↔
          Bindings.ofPairs captures name = some value := by
  refine ⟨ofText_eq_error_iff c symbols template source, ?_, fun captures =>
    ⟨SymbolTable.entries_ofPairs captures, fun name =>
      ⟨SymbolTable.get?_ofPairs captures name, fun value => mem_lastWriteWins⟩⟩⟩
  cases h : Synthesis.ofTemplate c.templateOptions symbols.bindings template with
  | error cause => simp only [Template.extract, h]
  | ok s =>
    have hextract := Template.extract_of_eq_ok h source
    show if s.isMatch source then _ else _
    rw [Synthesis.isMatch_eq_isSome_captures]
    cases hcs : s.captures source with
    | some cs =>
      rw [hcs] at hextract
      refine ⟨_, ofText_of_captures h hcs, hextract.trans ?_⟩
      rw [SymbolTable.entries_ofPairs]
      rfl
    | none =>
      rw [hcs] at hextract
      exact ⟨ofText_of_captures_none h hcs, hextract⟩

end Comparison

end TemplateMatch
