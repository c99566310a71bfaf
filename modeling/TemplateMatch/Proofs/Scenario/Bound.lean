import TemplateMatch.Proofs.Scenario.Repetition
import TemplateMatch.Proofs.Template.Resolved
import TemplateMatch.Proofs.Walk.Visits

/-!
Which symbols a comparison binds. Those that it captures are placeholders of the expected tree, from
a key or from a string, and if it passes, all placeholders of all strings are bound then: a key may
be answered by the field of its own name and capture nothing, but a string has to match
(`captured_of_passed`).
-/

namespace TemplateMatch

/-- A placeholder of this name stands in a template. -/
def Template.Mentions (d : Delimiters) (template name : String) : Prop :=
  ∃ names, Template.names d template = .ok names ∧ name ∈ names

/-- Every placeholder of a template is bound. -/
def Template.IsBound (d : Delimiters) (bound : Bindings) (template : String) : Prop :=
  ∃ names, Template.names d template = .ok names ∧ ∀ name ∈ names, bound name ≠ none

/-- What is bound after and was not before has a name of which something holds. -/
def Scope.BindsOnly (P : String → Prop) (before after : Scope) : Prop :=
  ∀ name, before.bindings name = none → after.bindings name ≠ none → P name

namespace Template

theorem IsBound.mono {d : Delimiters} {bound last : Bindings} {template : String}
    (h : IsBound d bound template) (hlast : bound.Sub last) : IsBound d last template := by
  obtain ⟨names, hnames, hbound⟩ := h
  refine ⟨names, hnames, fun name hname hnone => ?_⟩
  obtain ⟨value, hvalue⟩ := Option.ne_none_iff_exists'.mp (hbound name hname)
  rw [hlast name value hvalue] at hnone
  cases hnone

/-- A template of which everything is bound can be resolved. -/
theorem IsBound.exists_resolve {d : Delimiters} {bound : Bindings} {template : String}
    (h : IsBound d bound template) (substitution : Substitution) :
    ∃ text, resolve d bound substitution template = .ok text := by
  obtain ⟨names, hnames, hbound⟩ := h
  obtain ⟨tokens, hlex, rfl⟩ := map_eq_ok.mp hnames
  rw [resolve, hlex]
  exact ⟨_, resolveTokens_of_bound substitution (unboundNames_eq_nil_iff.mpr
    fun name hname => Option.isSome_iff_ne_none.mpr (hbound name hname))⟩

end Template

namespace Walk

variable {c : Config} {path : Pointer} {scope out : Scope}

/-- A template captures its placeholders that are unbound. -/
theorem map_fst_captures {template text : String} {s : Synthesis}
    {captures : List (String × String)} (hs : synthesize c path scope template = .ok s)
    (hc : s.captures text = some captures) :
    ∃ names, Template.names c.delimiters template = .ok names ∧
      captures.map Prod.fst = names.filter fun name => (scope.bindings name).isNone := by
  obtain ⟨tokens, hlex, hof⟩ := Synthesis.of_ofTemplate (synthesize_eq_ok hs)
  refine ⟨_, Template.names_eq_ok hlex, ?_⟩
  rw [hof.map_fst_captures hc, hof.names_eq]
  rfl

/-- What a template has matched has left nothing of it unbound. -/
theorem isBound_of_captures {template text : String} {s : Synthesis}
    {captures : List (String × String)} (hs : synthesize c path scope template = .ok s)
    (hc : s.captures text = some captures) :
    Template.IsBound c.delimiters (scope.bindAll captures).bindings template := by
  obtain ⟨names, hnames, hcaptured⟩ := map_fst_captures hs hc
  refine ⟨names, hnames, fun name hname hnone => ?_⟩
  obtain ⟨hnew, hold⟩ := Scope.bindings_bindAll_eq_none.mp hnone
  rw [hcaptured] at hnew
  exact hnew (List.mem_filter.mpr ⟨hname, Option.isNone_iff_eq_none.mpr hold⟩)

/-- Captures bind placeholders of their templates only. -/
theorem bindsOnly_keptByCaptures (c : Config) (P : String → Prop) :
    KeptByCaptures c (fun template => ∀ name, Template.Mentions c.delimiters template name → P name)
      (Scope.BindsOnly P) where
  refl s name hbefore hafter := absurd hbefore hafter
  trans {s t u} hst htu name hbefore hafter := by
    by_cases hmid : t.bindings name = none
    · exact htu name hmid hafter
    · exact hst name hbefore hmid
  captures {path scope template text s captures} hP hs hc name hbefore hafter := by
    obtain ⟨names, hnames, hcaptured⟩ := map_fst_captures hs hc
    have hname : name ∈ captures.map Prod.fst := by
      by_contra hname
      exact hafter (Scope.bindings_bindAll_eq_none.mpr ⟨hname, hbefore⟩)
    rw [hcaptured] at hname
    exact hP name ⟨names, hnames, (List.mem_filter.mp hname).1⟩

/-- Where a comparison passed, every string of the expected tree has all its placeholders bound. -/
theorem isBound_of_compareNode {e a : Json.Value} {template : String}
    (h : compareNode c path scope e a = .ok ([], out))
    (hpart : Json.Value.Part (.string template) e) :
    Template.IsBound c.delimiters out.bindings template := by
  obtain ⟨_, before, x, after, hcompare, hafter⟩ := exists_passed_part h hpart
  obtain ⟨text, s, captures, _, hs, hc, rfl⟩ := exists_matched hcompare
  exact (isBound_of_captures hs hc).mono hafter.sub

end Walk

/-- What a comparison of trees that passed has captured: distinct names, each of a placeholder that
stands in a key or a string of the expected tree and was not bound. Every placeholder of a string
was bound or is captured then, so that the scenario resolves all strings. -/
theorem captured_of_passed {c : Config} {symbols captured : SymbolTable} {e a : Json.Value}
    (h : Comparison.ofJson c symbols (.json e) (.json a) = .ok (.passed captured)) :
    captured.names.Nodup ∧
    (∀ name ∈ captured.names, symbols.get? name = none ∧
      ∃ template, e.HasText template ∧ Template.Mentions c.delimiters template name) ∧
    ∀ template, Json.Value.Part (.string template) e →
      (∃ names, Template.names c.delimiters template = .ok names ∧
        ∀ name ∈ names, symbols.get? name ≠ none ∨ captured.get? name ≠ none) ∧
      ∀ substitution, ∃ text,
        ((⟨symbols, c⟩ : Scenario).compare .json (.json e) (.json a)).2.resolve substitution
          template = .ok text := by
  obtain ⟨⟨ms, out⟩, hwalk, hfinish⟩ := map_eq_ok.mp h
  obtain ⟨rfl, hcaptured⟩ := finish_eq_passed hfinish rfl
  obtain rfl : captured = out.pending := hcaptured
  have hgrown := Walk.extends_of_compareNode hwalk
  refine ⟨out.pending.nodup, fun name hname => ?_, fun template hpart => ?_⟩
  · obtain ⟨entry, hentry, rfl⟩ := List.mem_map.mp hname
    have hnew : symbols.get? entry.1 = none := hgrown.not_bound entry hentry
    have honly : Scope.BindsOnly (fun name => ∃ template, e.HasText template ∧
        Template.Mentions c.delimiters template name) (.ofTable symbols) out :=
      Walk.kept_of_compareNode (Walk.bindsOnly_keptByCaptures c _)
        (fun template htext name hname => ⟨template, htext, hname⟩) hwalk
    have hunbound : (Scope.ofTable symbols).bindings entry.1 = none := by
      rwa [Scope.bindings_ofTable]
    refine ⟨hnew, honly entry.1 hunbound fun hnone => ?_⟩
    exact SymbolTable.get?_eq_none.mp (Scope.bindings_eq_none.mp hnone).1 hname
  · have hbound := Walk.isBound_of_compareNode hwalk hpart
    refine ⟨?_, fun substitution => ?_⟩
    · obtain ⟨names, hnames, hbound⟩ := hbound
      refine ⟨names, hnames, fun name hname => ?_⟩
      have hname := hbound name hname
      rw [ne_eq, Scope.bindings_eq_none, not_and_or, hgrown.base] at hname
      exact hname.symm
    · rw [Scenario.compare_eq_passed.mpr ⟨out, hwalk, rfl, rfl⟩]
      exact (hbound.mono hgrown.sub_insertAll).exists_resolve substitution

theorem captured_of_passed_field :
    ∃ captured, Comparison.ofJson ⟨.strict, false, .standard, .literal⟩ .empty
          (.json (.object [("~[k]", .string "~[x]-~[k]")]))
          (.json (.object [("id", .string "7-id")])) = .ok (.passed captured) ∧
      captured.names = ["k", "x"] ∧
      (∃ template, (Json.Value.object [("~[k]", .string "~[x]-~[k]")]).HasText template ∧
        Template.Mentions .standard template "k") ∧
      ∃ text, ((⟨.empty, ⟨.strict, false, .standard, .literal⟩⟩ : Scenario).compare .json
        (.json (.object [("~[k]", .string "~[x]-~[k]")]))
        (.json (.object [("id", .string "7-id")]))).2.resolve .plain "~[x]-~[k]" = .ok text := by
  have hrun : Comparison.ofJson ⟨.strict, false, .standard, .literal⟩ .empty
      (.json (.object [("~[k]", .string "~[x]-~[k]")])) (.json (.object [("id", .string "7-id")])) =
        .ok (.passed ⟨[("k", "id"), ("x", "7")], by decide⟩) := by cbv
  obtain ⟨_, hnames, hstrings⟩ := captured_of_passed hrun
  have hpart : Json.Value.Part (.string "~[x]-~[k]") (.object [("~[k]", .string "~[x]-~[k]")]) :=
    .field List.mem_cons_self (.self _)
  exact ⟨_, hrun, rfl, (hnames "k" List.mem_cons_self).2, (hstrings _ hpart).2 .plain⟩

end TemplateMatch
