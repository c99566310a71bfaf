import TemplateMatch.Proofs.Entries
import TemplateMatch.Proofs.Template.Compiled
import TemplateMatch.Proofs.Template.Verbatim

/-!
What is captured for a placeholder. It is the text that the group of the placeholder matched last,
or the empty text if that group took no part (`captures_aligned`). Outside literal mode nothing
keeps the group inside the expression or in the match: the template around it may be any expression.
-/

namespace TemplateMatch

open Regex

/-- A text is the part of a source between two places. -/
def IsPart (source value : String) (a b : Position) : Prop :=
  ∃ before after, source = before ++ value ++ after ∧ before.length = a.index ∧
    (before ++ value).length = b.index

theorem isPart_textTo {source : String} {a : Position} {n : Nat}
    (ha : a ∈ Position.all source.toList) (hn : n ≤ a.rest.length) :
    IsPart source (String.ofList (a.textTo (a.skip n))) a (a.skip n) := by
  have hcut := Position.eq_append_textTo ha hn
  have hle : a.index ≤ source.toList.length := by
    obtain ⟨m, hm, rfl⟩ := Position.mem_all_iff.mp ha
    rw [Position.index_skip hm]
    change 0 + m ≤ source.toList.length
    rw [Nat.zero_add]
    exact hm
  refine ⟨String.ofList (source.toList.take a.index), String.ofList (a.skip n).rest, ?_, ?_, ?_⟩
  · rw [← String.ofList_append, ← String.ofList_append, ← hcut, String.ofList_toList]
  · rw [String.length_ofList, List.length_take]
    omega
  · rw [← String.ofList_append, String.length_ofList, List.length_append, List.length_take,
      Position.textTo_skip hn, List.length_take, Position.index_skip hn]
    omega

/-- The text of every completed group is a part of the source. -/
theorem Regex.Leads.isPart {e : Expr} {source : String} {p q : Position} {spans : List Span}
    (h : Leads e p q spans) (hp : p ∈ Position.all source.toList) {name : String} {a b : Position}
    (hs : (name, a, b) ∈ spans) : IsPart source (String.ofList (a.textTo b)) a b := by
  obtain ⟨m, n, hmn, ha, hb⟩ := h.span_on_way _ hs
  simp only at ha hb
  subst ha hb
  apply isPart_textTo
  · exact Position.skip_mem_all hp (by omega)
  · rw [Position.rest_skip, List.length_drop]
    omega

namespace Template

/-- What a match with these groups gives for the placeholder with this number. Nothing is said of a
group that is none of the expression, swallowed by a character class. -/
structure Captured (p : Program) (spans : List Span) (source : String) (index : Nat)
    (value : String) : Prop where
  part : ∀ a b, spans.lookup (groupName index) = some (a, b) → IsPart source value a b
  empty : groupName index ∈ p.expr.groups → spans.lookup (groupName index) = none → value = ""

/-- The value for the placeholder with this number: the text of its group. -/
def valueOf (spans : List Span) (index : Nat) : String :=
  ((spans.lookup (groupName index)).map fun s => String.ofList (s.1.textTo s.2)).getD ""

theorem captured_valueOf {p : Program} {source : String} {start stop : Position}
    {spans : List Span} (hl : Leads p.expr start stop spans)
    (hstart : start ∈ Position.all source.toList) (index : Nat) :
    Captured p spans source index (valueOf spans index) := by
  constructor
  · intro a b hs
    rw [valueOf, hs]
    exact hl.isPart hstart (mem_of_lookup hs)
  · intro _ hs
    rw [valueOf, hs]
    rfl

theorem capturesOf_ofSpans (names : List String) (start stop : Position) (spans : List Span) :
    Synthesis.capturesOf names (.ofSpans start stop spans) =
      names.mapIdx fun i name => (name, valueOf spans i) := by
  have hgroup (i : Nat) := lookup_map_snd
    (fun s : Position × Position => String.ofList (s.1.textTo s.2)) (groupName i) spans
  unfold Synthesis.capturesOf
  congr 1
  funext i name
  rw [valueOf, ← hgroup]
  rfl

theorem map_snd_mapIdx_valueOf (names : List String) (spans : List Span) :
    (names.mapIdx fun i name => (name, valueOf spans i)).map Prod.snd =
      (List.range names.length).map (valueOf spans) := by
  apply List.ext_getElem
  · simp
  · intro i hi hi'
    rw [List.getElem_map, List.getElem_mapIdx, List.getElem_map, List.getElem_range]

/-! ## Templates taken verbatim -/

theorem Piece.Spells.length_values {ignoreCase : Bool} {ps : List Piece}
    {values : List (List Char)} {text : List Char} (h : Piece.Spells ignoreCase ps values text) :
    values.length = (ps.filterMap Piece.group?).length := by
  induction h with
  | nil => rfl
  | char _ _ ih => exact ih
  | hole _ ih => rw [List.length_cons, ih]; rfl

theorem expr_of_literal {o : TemplateOptions} {bound : Bindings} {tokens : List Token}
    {s : Synthesis} {p : Program} (h : Synthesis.Of o bound tokens s) (hm : s.mode = .literal)
    (hp : s.matcher = .program p) : p.expr = verbatimExpr o.ignoreCase (pieces bound 0 tokens) := by
  cases h with
  | program _ hcompile =>
    cases hp
    cases hm
    change Program.compile (flagsOf o.ignoreCase) _ = _ at hcompile
    rw [compile_source_literal] at hcompile
    split at hcompile <;> cases hcompile
    rfl
  | text => cases hp

/-- Each group of a template taken verbatim takes part once, so its text is the latest. -/
theorem lookup_of_texts {spans : List Span} {count : Nat} {values : List (List Char)}
    (h : texts spans = ((List.range' 0 count).map groupName).zip values)
    (hcount : values.length = count) {index : Nat} {value : List Char}
    (hi : values[index]? = some value) :
    ∃ a b, spans.lookup (groupName index) = some (a, b) ∧ a.textTo b = value := by
  have hmem : (groupName index, value) ∈ texts spans := by
    rw [h]
    apply List.mem_of_getElem? (i := index)
    have hlt : index < count := by
      rw [← hcount]
      exact (List.getElem?_eq_some_iff.mp hi).1
    rw [List.getElem?_zip_eq_some]
    refine ⟨?_, hi⟩
    rw [List.getElem?_map, List.getElem?_range' hlt]
    simp
  -- Group names are distinct, so the one entry of a name is what a look-up finds.
  have hnames : (spans.map Prod.fst).Nodup := by
    have hfst : (texts spans).map Prod.fst = (spans.map Prod.fst).reverse := by
      rw [texts, List.map_map, List.map_reverse]
      rfl
    rw [← List.nodup_reverse, ← hfst, h, List.map_fst_zip (by simp [hcount])]
    exact (List.nodup_range' (h := by decide)).map groupName_injective
  obtain ⟨⟨name, a, b⟩, hs, heq⟩ := List.mem_map.mp hmem
  cases heq
  exact ⟨a, b, lookup_of_mem hnames (List.mem_reverse.mp hs), rfl⟩

/-- Taken verbatim, a template has a group for each name, and the values are the texts of the
groups. -/
theorem values_verbatim {ignoreCase : Bool} {bound : Bindings} {tokens : List Token}
    {source : String} {start stop : Position} {spans : List Span}
    (hl : Leads (verbatimExpr ignoreCase (pieces bound 0 tokens)) start stop spans)
    (hstart : start ∈ Position.all source.toList) :
    ∃ values, Piece.Spells ignoreCase (pieces bound 0 tokens) values source.toList ∧
      (texts spans).map Prod.snd = values ∧
      (∀ i < (unboundNames bound tokens).length, ∃ a b,
        spans.lookup (groupName i) = some (a, b)) ∧
      (List.range (unboundNames bound tokens).length).map (valueOf spans) =
        values.map String.ofList := by
  obtain ⟨values, hspells, htexts⟩ := spells_of_leads_verbatimExpr hstart hl
  have hcount : values.length = (unboundNames bound tokens).length := by
    rw [hspells.length_values, filterMap_group?_pieces, names_body, List.length_map,
      List.length_range']
  -- The numbers of the groups are the places of the names.
  rw [filterMap_group?_pieces, names_body] at htexts
  have hlookup (i : Nat) (hi : i < values.length) :
      ∃ a b, spans.lookup (groupName i) = some (a, b) ∧ a.textTo b = values[i] :=
    lookup_of_texts htexts hcount (List.getElem?_eq_getElem hi)
  refine ⟨values, hspells, ?_, fun i hi => ?_, ?_⟩
  · rw [htexts, List.map_snd_zip (by simp [hcount])]
  · obtain ⟨a, b, hs, _⟩ := hlookup i (hcount ▸ hi)
    exact ⟨a, b, hs⟩
  · apply List.ext_getElem
    · simp [hcount]
    · intro i hi hi'
      obtain ⟨a, b, hs, htext⟩ := hlookup i (by simpa using hi')
      rw [List.getElem_map, List.getElem_map, List.getElem_range, valueOf, hs, ← htext]
      rfl

/-- The groups of a match are those of the names, and the tokens stand for the source with the
captured values. -/
theorem captured_verbatim {ignoreCase : Bool} {bound : Bindings} {tokens : List Token}
    {source : String} {start stop : Position} {spans : List Span}
    (hl : Leads (verbatimExpr ignoreCase (pieces bound 0 tokens)) start stop spans)
    (hstart : start ∈ Position.all source.toList) :
    (∀ i < (unboundNames bound tokens).length, ∃ a b, spans.lookup (groupName i) = some (a, b)) ∧
      Spells ignoreCase bound tokens
        ((List.range (unboundNames bound tokens).length).map (valueOf spans)) source := by
  obtain ⟨values, hspells, _, hgroups, hvalues⟩ := values_verbatim hl hstart
  refine ⟨hgroups, ?_⟩
  rw [hvalues, ← String.ofList_toList (s := source)]
  exact hspells.toTokens

/-! ## Every mode -/

/-- What is captured has one entry for each name, in order. The value is the part of the source that
the group of the name took last, and it is empty where that group took no part. Taken verbatim, a
template has all these groups, all of them take part, and its tokens stand for the source with the
captured values. -/
theorem captures_aligned {o : TemplateOptions} {bound : Bindings} {template source : String}
    {s : Synthesis} {p : Program} {cs : List (String × String)}
    (hs : Synthesis.ofTemplate o bound template = .ok s) (hp : s.matcher = .program p)
    (hc : s.captures source = some cs) :
    cs.map Prod.fst = s.names ∧
      ∃ start stop spans, p.find source = some (.ofSpans start stop spans) ∧
        start ∈ Position.all source.toList ∧ Leads p.expr start stop spans ∧
        (∀ i name, s.names[i]? = some name → ∃ value, cs[i]? = some (name, value) ∧
          Captured p spans source i value) ∧
        (s.mode = .literal →
          (∀ i < s.names.length, groupName i ∈ p.expr.groups ∧
            ∃ a b, spans.lookup (groupName i) = some (a, b)) ∧
          ∃ tokens, lex o.delimiters template = .ok tokens ∧
            Spells o.ignoreCase bound tokens (cs.map Prod.snd) source) := by
  obtain ⟨tokens, hlex, hof⟩ := Synthesis.of_ofTemplate hs
  refine ⟨hof.map_fst_captures hc, ?_⟩
  -- The match that was found stems from a derivation, whose spans are the groups.
  simp only [Synthesis.captures, hp] at hc
  obtain ⟨m, hm, rfl⟩ := Option.map_eq_some_iff.mp hc
  obtain ⟨start, hstart, stop, spans, hl, rfl⟩ := Expr.find_eq_some hm
  rw [capturesOf_ofSpans]
  refine ⟨start, stop, spans, hm, hstart, hl, ?_, ?_⟩
  · intro i name hname
    refine ⟨valueOf spans i, ?_, captured_valueOf hl hstart i⟩
    rw [List.getElem?_mapIdx, hname, Option.map_some]
  · intro hmode
    rw [expr_of_literal hof hmode hp] at hl
    obtain ⟨hgroups, hspells⟩ := captured_verbatim hl hstart
    rw [map_snd_mapIdx_valueOf, hof.names_eq, expr_of_literal hof hmode hp]
    refine ⟨fun i hi => ?_, tokens, hlex, hspells⟩
    obtain ⟨a, b, hab⟩ := hgroups i hi
    exact ⟨hl.name_mem_groups _ (mem_of_lookup hab), a, b, hab⟩

theorem captures_aligned_branch :
    ∃ s p, Synthesis.ofTemplate ⟨.standard, .regex, false⟩ .none "(a|~[x])-~[y]" = .ok s ∧
      s.captures "a-b" = some [("x", ""), ("y", "b")] ∧ s.names = ["x", "y"] ∧
      ∃ start stop spans, Leads p.expr start stop spans ∧ Captured p spans "a-b" 0 "" ∧
        Captured p spans "a-b" 1 "b" := by
  have hs : ∃ s p, Synthesis.ofTemplate ⟨.standard, .regex, false⟩ .none "(a|~[x])-~[y]" = .ok s ∧
      s.matcher = .program p ∧ s.captures "a-b" = some [("x", ""), ("y", "b")] :=
    ⟨⟨.program _, _, _⟩, _, by cbv, rfl, by cbv⟩
  obtain ⟨s, p, hs, hp, hc⟩ := hs
  obtain ⟨hnames, start, stop, spans, -, -, hl, hvalues, -⟩ := captures_aligned hs hp hc
  obtain ⟨x, hx, hx'⟩ := hvalues 0 "x" (by rw [← hnames]; rfl)
  obtain ⟨y, hy, hy'⟩ := hvalues 1 "y" (by rw [← hnames]; rfl)
  cases hx
  cases hy
  exact ⟨s, p, hs, hc, hnames.symm, start, stop, spans, hl, hx', hy'⟩

/-- A group may lie in a branch that is not taken, and in a character class it is no group. -/
theorem captures_not_aligned :
    (∃ s p m, Synthesis.ofTemplate ⟨.standard, .regex, false⟩ .none "a|~[x]" = .ok s ∧
      s.matcher = .program p ∧ s.captures "a" = some [("x", "")] ∧
      p.expr.groups = [groupName 0] ∧ p.find "a" = some m ∧ m.group? (groupName 0) = none) ∧
    ∃ s p, Synthesis.ofTemplate ⟨.standard, .regex, false⟩ .none "[~[x]]" = .ok s ∧
      s.matcher = .program p ∧ s.captures "P" = some [("x", "")] ∧ p.expr.groups = [] := by
  constructor
  · exact ⟨⟨.program _, _, _⟩, _, _, by cbv, rfl, by cbv, by cbv, by cbv, by cbv⟩
  · exact ⟨⟨.program _, _, _⟩, _, by cbv, rfl, by cbv, by cbv⟩

end Template

end TemplateMatch
