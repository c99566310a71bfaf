import TemplateMatch.Proofs.Json.Places
import TemplateMatch.Proofs.Scenario.Repetition
import TemplateMatch.Proofs.Walk.Visits

/-!
Resolving what a comparison has captured. Where templates are taken verbatim, case is observed, keys
have no placeholders and no string has one twice, a comparison that passes leaves symbols under
which every string of the expected tree resolves to the text that the actual tree has in its place
(`resolve_of_compare`).
-/

namespace TemplateMatch

namespace Walk

variable {c : Config} {path : Pointer} {scope out : Scope}

/-- The keys of an object have no placeholders, and a string has none twice. -/
def IsLinear (c : Config) : Json.Value → Prop
  | .object fields => ∀ f ∈ fields, ∀ names,
      Template.names c.delimiters f.1 = .ok names → names = []
  | .string template => ∀ names, Template.names c.delimiters template = .ok names → names.Nodup
  | _ => True

/-- Every string of the one tree resolves to the text of the node that the other tree has in its
place. -/
def GivesBack (c : Config) (bound : Bindings) (e a : Json.Value) : Prop :=
  ∀ path template, e.at? path = some (.string template) →
    ∃ node text, a.at? path = some node ∧ node.scalarText? = some text ∧
      Template.resolve c.delimiters bound .plain template = .ok text

theorem GivesBack.array {bound : Bindings} {es as : List Json.Value}
    (h : ∀ (i : Nat) (e : Json.Value), es[i]? = some e →
      ∃ a, as[i]? = some a ∧ GivesBack c bound e a) :
    GivesBack c bound (.array es) (.array as) := by
  intro place template hplace
  match place with
  | .item i :: rest =>
    obtain ⟨e, he, hplace⟩ := Option.bind_eq_some_iff.mp hplace
    obtain ⟨a, ha, hgives⟩ := h i e he
    rw [Json.Value.at?_item ha]
    exact hgives rest template hplace
  | [] => cases hplace
  | .field _ :: _ => cases hplace

theorem GivesBack.object {bound : Bindings} {es as : List (String × Json.Value)}
    (h : ∀ (key : String) (e : Json.Value), es.lookup key = some e →
      ∃ a, as.lookup key = some a ∧ GivesBack c bound e a) :
    GivesBack c bound (.object es) (.object as) := by
  intro place template hplace
  match place with
  | .field key :: rest =>
    obtain ⟨e, he, hplace⟩ := Option.bind_eq_some_iff.mp hplace
    obtain ⟨a, ha, hgives⟩ := h key e he
    rw [Json.Value.at?_field ha]
    exact hgives rest template hplace
  | [] => cases hplace
  | .item _ :: _ => cases hplace

theorem exists_tokens {template : String} {s : Synthesis}
    (h : synthesize c path scope template = .ok s) :
    ∃ tokens, Template.lex c.delimiters template = .ok tokens ∧
      Template.names c.delimiters template = .ok (tokens.filterMap Token.name?) := by
  obtain ⟨tokens, hlex, _⟩ := Synthesis.of_ofTemplate (synthesize_eq_ok h)
  exact ⟨tokens, hlex, Template.names_eq_ok hlex⟩

section

variable (hmode : c.templateMode = .literal) (hcase : c.ignoreCase = false)

include hmode hcase

theorem givesBack_string {template : String} {a : Json.Value} {last : Bindings}
    (h : compareNode c path scope (.string template) a = .ok ([], out))
    (hlinear : IsLinear c (.string template)) (hlast : out.bindings.Sub last) :
    GivesBack c last (.string template) a := by
  intro place template' hplace
  cases place with
  | cons step rest => cases hplace
  | nil =>
    cases hplace
    obtain ⟨text, s, captures, htext, hs, hc, rfl⟩ := exists_matched h
    obtain ⟨tokens, hlex, hnames⟩ := exists_tokens hs
    have hgrown := extends_captures hs hc
    have hcaptured := (Scope.Extends.refl _).captured_sub.trans hlast
    exact ⟨a, text, rfl, htext, Synthesis.resolve_of_captures (o := c.templateOptions) hmode
      hcase hlex ((hlinear _ hnames).filter _) (synthesize_eq_ok hs) hc
      (hgrown.sub.trans hlast) hcaptured⟩

/-- A key without placeholders is answered by the field of the same name, whose value passed. -/
theorem exists_answer {as : List (String × Json.Value)} {key : String} {value : Json.Value}
    (h : Answered c path as out key value) (has : (as.map Prod.fst).Nodup)
    (hkey : ∀ names, Template.names c.delimiters key = .ok names → names = []) :
    ∃ actual before after, as.lookup key = some actual ∧
      compareNode c path before value actual = .ok ([], after) ∧ after.Extends out := by
  obtain ⟨slots, before, template, candidate, after, hslots, hs,
    ⟨slot, hslot, _, hvalue, hname⟩, hcompare, hafter⟩ := h
  obtain ⟨tokens, _, hnames⟩ := exists_tokens hs
  rw [hkey _ hnames] at hnames
  obtain ⟨fixed, hfixed, hself⟩ := Synthesis.exists_isFixed_self (o := c.templateOptions)
    before.bindings hmode hcase hnames
  rw [synthesize_eq_ok hs] at hfixed
  cases hfixed
  -- Such a template is satisfied by its own text only.
  have hname : slot.name = key := by
    rcases hname with ⟨hname, _⟩ | hcaptures
    · exact hname
    · rw [hself slot.name] at hcaptures
      split at hcaptures
      · assumption
      · cases hcaptures
  refine ⟨candidate.value, _, after, lookup_of_mem has ?_, hcompare, hafter⟩
  rw [← hslots, ← hname, ← hvalue]
  exact Slot.mem_fields (List.mem_of_getElem? hslot)

/-- What a tree was compared with gives back its strings, under all that was bound in the end. -/
theorem givesBack_of_compareNode {last : Bindings} {e a : Json.Value}
    (h : compareNode c path scope e a = .ok ([], out)) (hlast : out.bindings.Sub last)
    (hactual : a.DistinctKeys) (hlinear : e.Everywhere (IsLinear c)) : GivesBack c last e a := by
  induction e using Json.Value.induction generalizing path scope a out with
  | leaf e hitems hfields =>
    cases e with
    | string template => exact givesBack_string hmode hcase h hlinear.self hlast
    | array items => exact absurd rfl (hitems items)
    | object fields => exact absurd rfl (hfields fields)
    | _ =>
      intro place template hplace
      cases place <;> cases hplace
  | array items ih =>
    obtain ⟨as, rfl, hpassed⟩ := passed_items h
    refine .array fun i e he => ?_
    obtain ⟨x, _, _, after, hx, hcompare, hafter⟩ := hpassed i e he
    exact ⟨x, hx, ih e (List.mem_of_getElem? he) hcompare (hafter.sub.trans hlast)
      (hactual.item (List.mem_of_getElem? hx)) (hlinear.item (List.mem_of_getElem? he))⟩
  | object fields ih =>
    obtain ⟨as, rfl, hpassed⟩ := passed_fields h
    refine .object fun key value hvalue => ?_
    have hmem : (key, value) ∈ fields := mem_of_lookup hvalue
    obtain ⟨actual, before, after, hlookup, hcompare, hafter⟩ :=
      exists_answer hmode hcase (hpassed key value hmem) hactual.self (hlinear.self _ hmem)
    exact ⟨actual, hlookup, ih _ hmem hcompare (hafter.sub.trans hlast)
      (hactual.field (mem_of_lookup hlookup)) (hlinear.field hmem)⟩

end

end Walk

namespace Scenario

/-- After a comparison that passed, every string of the expected document resolves to the text of
the actual document in the same place: templates are taken verbatim, case is observed, the keys of
the expected tree have no placeholders, and none of its strings has one twice, though different
strings may share placeholders. -/
theorem resolve_of_compare {s after : Scenario} {type : ContentType} {expected actual : Document}
    {captured : SymbolTable} {e a : Json.Value}
    (hmode : s.config.templateMode = .literal) (hcase : s.config.ignoreCase = false)
    (h : s.compare type expected actual = (.ok (.passed captured), after))
    (he : expected.value? type = some e) (ha : actual.value? type = some a)
    (hactual : actual.IsMaps) (hlinear : e.Everywhere (Walk.IsLinear s.config)) (path : Pointer)
    (template : String) (hpath : e.at? path = some (.string template)) :
    ∃ node text, a.at? path = some node ∧ node.scalarText? = some text ∧
      after.resolve .plain template = .ok text := by
  obtain ⟨hjudge, rfl⟩ := eq_of_compare_passed h
  rw [judge, Comparison.ofDocuments_eq he ha] at hjudge
  obtain ⟨⟨ms, out⟩, hwalk, hfinish⟩ := map_eq_ok.mp hjudge
  obtain ⟨rfl, hcaptured⟩ := finish_eq_passed hfinish rfl
  have hlast : out.bindings.Sub (s.symbols.insertAll captured.entries).bindings := by
    have hpending : captured = out.pending := hcaptured
    rw [hpending]
    exact (Walk.extends_of_compareNode hwalk).sub_insertAll
  exact Walk.givesBack_of_compareNode hmode hcase hwalk hlast
    (Document.distinctKeys_of_value? hactual ha) hlinear path template hpath

theorem resolve_of_compare_shared :
    ∃ after, (start ⟨.strict, false, .standard, .literal⟩).compare .json
        (.json (.object [("id", .string "~[x]-~[y]"), ("of", .array [.null, .string "~[x]"])]))
        (.json (.object [("of", .array [.null, .number (.integer 7)]), ("id", .string "7-b")])) =
          (.ok (.passed ⟨[("x", "7"), ("y", "b")], by decide⟩), after) ∧
      after.resolve .plain "~[x]-~[y]" = .ok "7-b" ∧ after.resolve .plain "~[x]" = .ok "7" := by
  have hrun : ∃ after, (start ⟨.strict, false, .standard, .literal⟩).compare .json
        (.json (.object [("id", .string "~[x]-~[y]"), ("of", .array [.null, .string "~[x]"])]))
        (.json (.object [("of", .array [.null, .number (.integer 7)]), ("id", .string "7-b")])) =
          (.ok (.passed ⟨[("x", "7"), ("y", "b")], by decide⟩), after) := ⟨_, by cbv⟩
  obtain ⟨after, hrun⟩ := hrun
  have hactual : Document.IsMaps (.json (.object
      [("of", .array [.null, .number (.integer 7)]), ("id", .string "7-b")])) := by
    simp [Document.IsMaps, Json.Value.IsMap]
  -- The names of each template are read off it, in whatever order they are asked for.
  have hlinear : (Json.Value.object [("id", .string "~[x]-~[y]"),
      ("of", .array [.null, .string "~[x]"])]).Everywhere
        (Walk.IsLinear ⟨.strict, false, .standard, .literal⟩) := by
    have hid : Template.names .standard "id" = .ok [] := by cbv
    have hof : Template.names .standard "of" = .ok [] := by cbv
    have hboth : Template.names .standard "~[x]-~[y]" = .ok ["x", "y"] := by cbv
    have hx : Template.names .standard "~[x]" = .ok ["x"] := by cbv
    simp [Walk.IsLinear, hid, hof, hboth, hx]
  have hresolve := resolve_of_compare rfl rfl hrun rfl rfl hactual hlinear
  refine ⟨after, hrun, ?_, ?_⟩
  · obtain ⟨node, text, hnode, htext, hresolved⟩ :=
      hresolve [.field "id"] "~[x]-~[y]" rfl
    cases hnode
    cases htext
    exact hresolved
  · obtain ⟨node, text, hnode, htext, hresolved⟩ :=
      hresolve [.field "of", .item 1] "~[x]" rfl
    cases hnode
    cases htext
    exact hresolved

end Scenario

end TemplateMatch
