import Mathlib
import TemplateMatch.Proofs.Regex.Completeness
import TemplateMatch.Proofs.Template.Pieces
import TemplateMatch.Proofs.Template.Rendering

/-!
What a template taken verbatim matches. `Spells` says which sources its tokens stand for, without
any mention of expressions; a source is matched exactly when it is one of these.
-/

namespace TemplateMatch.Template

open Regex

/-- Equality of texts, up to simple case folding of each character where case is ignored. -/
def SameText (ignoreCase : Bool) (s t : String) : Prop :=
  if ignoreCase then s.toList.map Unicode.fold = t.toList.map Unicode.fold else s = t

/-- A source that tokens stand for, with the values that the unbound placeholders have in it. -/
inductive Spells (ignoreCase : Bool) (bound : Bindings) : List Token → List String → String → Prop
  | nil : Spells ignoreCase bound [] [] ""
  | literal {text part source : String} {tokens : List Token} {values : List String} :
    SameText ignoreCase text part → Spells ignoreCase bound tokens values source →
      Spells ignoreCase bound (.literal text :: tokens) values (part ++ source)
  | value {position : Nat} {name value part source : String} {tokens : List Token}
    {values : List String} :
    bound name = some value → SameText ignoreCase value part →
      Spells ignoreCase bound tokens values source →
      Spells ignoreCase bound (.placeholder position name :: tokens) values (part ++ source)
  | capture {position : Nat} {name value source : String} {tokens : List Token}
    {values : List String} :
    bound name = none → Spells ignoreCase bound tokens values source →
      Spells ignoreCase bound (.placeholder position name :: tokens) (value :: values)
        (value ++ source)

namespace Piece

/-- A text that pieces stand for, with the texts of the holes. -/
inductive Spells (ignoreCase : Bool) : List Piece → List (List Char) → List Char → Prop
  | nil : Spells ignoreCase [] [] []
  | char {c d : Char} {ps : List Piece} {values : List (List Char)} {text : List Char} :
    (matched ignoreCase c).mem d = true → Spells ignoreCase ps values text →
      Spells ignoreCase (.char c :: ps) values (d :: text)
  | hole {index : Nat} {value : List Char} {ps : List Piece} {values : List (List Char)}
    {text : List Char} :
    Spells ignoreCase ps values text →
      Spells ignoreCase (.hole index :: ps) (value :: values) (value ++ text)

/-! ## From tokens to pieces -/

theorem mem_matched (ignoreCase : Bool) (c d : Char) :
    (matched ignoreCase c).mem d = true ↔
      if ignoreCase then Unicode.fold c = Unicode.fold d else c = d := by
  cases ignoreCase
  · simp only [matched, Bool.false_eq_true, if_false, CharSet.mem_single, beq_iff_eq]
    exact eq_comm
  · simp only [matched, if_true, CharSet.mem_represented, beq_iff_eq]
    exact eq_comm

theorem sameText_cons {ignoreCase : Bool} {c d : Char} {s t : List Char} :
    SameText ignoreCase (String.ofList (c :: s)) (String.ofList (d :: t)) ↔
      (matched ignoreCase c).mem d = true ∧
        SameText ignoreCase (String.ofList s) (String.ofList t) := by
  rw [mem_matched]
  cases ignoreCase <;> simp [SameText, ← String.toList_inj]

/-- Characters stand for a text that is the same as theirs. -/
theorem spells_chars {ignoreCase : Bool} {chars : List Char} {ps : List Piece}
    {values : List (List Char)} {text : List Char} :
    Spells ignoreCase (chars.map .char ++ ps) values text ↔
      ∃ part rest, text = part ++ rest ∧
        SameText ignoreCase (String.ofList chars) (String.ofList part) ∧
        Spells ignoreCase ps values rest := by
  induction chars generalizing text with
  | nil =>
    constructor
    · exact fun h => ⟨[], text, rfl, by cases ignoreCase <;> simp [SameText], h⟩
    · rintro ⟨part, rest, rfl, hsame, h⟩
      have hpart : part = [] := by
        cases ignoreCase <;> simp [SameText, ← String.toList_inj] at hsame <;> exact hsame
      rw [hpart]
      exact h
  | cons c chars ih =>
    rw [List.map_cons, List.cons_append]
    constructor
    · intro h
      cases h with
      | @char _ d _ _ rest hd h =>
        obtain ⟨part, rest, rfl, hsame, h⟩ := ih.mp h
        exact ⟨d :: part, rest, rfl, sameText_cons.mpr ⟨hd, hsame⟩, h⟩
    · rintro ⟨part, rest, rfl, hsame, h⟩
      cases part with
      | nil => cases ignoreCase <;> simp [SameText, ← String.toList_inj] at hsame
      | cons d part =>
        obtain ⟨hd, hsame⟩ := sameText_cons.mp hsame
        exact .char hd (ih.mpr ⟨part, rest, rfl, hsame, h⟩)

end Piece

theorem Spells.toPieces {ignoreCase : Bool} {bound : Bindings} {tokens : List Token}
    {values : List String} {source : String} (h : Spells ignoreCase bound tokens values source)
    (index : Nat) :
    Piece.Spells ignoreCase (pieces bound index tokens) (values.map String.toList)
      source.toList := by
  induction h generalizing index with
  | nil => exact .nil
  | literal hsame _ ih =>
    rw [pieces, Piece.spells_chars]
    exact ⟨_, _, String.toList_append, by simpa using hsame, ih index⟩
  | value hbound hsame _ ih =>
    simp only [pieces, hbound]
    rw [Piece.spells_chars]
    exact ⟨_, _, String.toList_append, by simpa using hsame, ih index⟩
  | capture hbound _ ih =>
    simp only [pieces, hbound]
    rw [List.map_cons, String.toList_append]
    exact .hole (ih (index + 1))

theorem Piece.Spells.toTokens {ignoreCase : Bool} {bound : Bindings} {index : Nat}
    {tokens : List Token} {values : List (List Char)} {text : List Char}
    (h : Piece.Spells ignoreCase (pieces bound index tokens) values text) :
    Template.Spells ignoreCase bound tokens (values.map String.ofList) (String.ofList text) := by
  induction tokens generalizing index values text with
  | nil =>
    cases h
    exact .nil
  | cons token tokens ih =>
    cases token with
    | literal literal =>
      rw [pieces, Piece.spells_chars] at h
      obtain ⟨part, rest, rfl, hsame, h⟩ := h
      rw [String.ofList_append]
      exact .literal (by simpa using hsame) (ih h)
    | placeholder position name =>
      cases hbound : bound name with
      | some value =>
        simp only [pieces, hbound] at h
        rw [Piece.spells_chars] at h
        obtain ⟨part, rest, rfl, hsame, h⟩ := h
        rw [String.ofList_append]
        exact .value hbound (by simpa using hsame) (ih h)
      | none =>
        simp only [pieces, hbound] at h
        cases h with
        | hole h =>
          rw [List.map_cons, String.ofList_append]
          exact .capture hbound (ih h)

/-! ## From pieces to matches -/

theorem leads_ofList_cons {a : Expr} {as : List Expr} {p r : Position} {spans : List Span} :
    Leads (.ofList (a :: as)) p r spans ↔ ∃ q first then_, Leads a p q first ∧
      Leads (.ofList as) q r then_ ∧ spans = then_ ++ first := by
  cases as with
  | nil =>
    constructor
    · exact fun h => ⟨r, spans, [], h, .empty, rfl⟩
    · rintro ⟨q, first, then_, ha, h, rfl⟩
      cases h
      exact ha
  | cons b as =>
    constructor
    · intro h
      cases h with
      | cat ha h => exact ⟨_, _, _, ha, h, rfl⟩
    · rintro ⟨q, first, then_, ha, h, rfl⟩
      exact .cat ha h

/-- A lazy dot that may be repeated matches every text. -/
theorem leads_anything {p : Position} {n : Nat} (h : n ≤ p.rest.length) :
    Leads (.repetition 0 none false (.chars .any)) p (p.skip n) [] := by
  induction n generalizing p with
  | zero => exact .leave
  | succ n ih =>
    cases hp : p.rest with
    | nil => rw [hp, List.length_nil] at h; omega
    | cons c rest =>
      rw [hp, List.length_cons] at h
      have hnext := ih (p := ⟨p.index + 1, some c, rest⟩) (Nat.le_of_succ_le_succ h)
      have hl : Leads (.repetition 0 none false (.chars .any)) p
          (Position.skip n ⟨p.index + 1, some c, rest⟩) ([] ++ []) :=
        .round (.inr (by simp)) (.chars hp (CharSet.mem_any c)) hnext
      rwa [Position.skip_succ hp]

/-- The texts of the groups that a match completed, in order. -/
def texts (spans : List Span) : List (String × List Char) :=
  spans.reverse.map fun s => (s.1, s.2.1.textTo s.2.2)

/-- A match of pieces takes a text that they stand for, and each hole is a group with its text. -/
theorem spells_of_leads {ignoreCase : Bool} {ps : List Piece} {p q : Position} {spans : List Span}
    (h : Leads (.ofList (ps.map (Piece.expr ignoreCase))) p q spans) :
    ∃ values text, p.rest = text ++ q.rest ∧ Piece.Spells ignoreCase ps values text ∧
      texts spans = (ps.filterMap Piece.group?).zip values := by
  induction ps generalizing p spans with
  | nil =>
    cases h
    exact ⟨[], [], rfl, .nil, rfl⟩
  | cons piece ps ih =>
    rw [List.map_cons, leads_ofList_cons] at h
    obtain ⟨r, first, then_, hpiece, hrest, rfl⟩ := h
    obtain ⟨values, text, htext, hspells, htexts⟩ := ih hrest
    have happend : texts (then_ ++ first) = texts first ++ texts then_ := by
      rw [texts, List.reverse_append, List.map_append]
      rfl
    rw [happend, htexts]
    cases piece with
    | char c =>
      cases hpiece with
      | @chars _ _ d rest hp hd =>
        refine ⟨values, d :: text, ?_, .char hd hspells, rfl⟩
        rw [hp, List.cons_append, ← htext]
    | hole index =>
      cases hpiece with
      | @group _ _ _ _ inner ha =>
        -- Inside the group there is only the dot, so no further group.
        have hinner : inner = [] := by
          rw [List.eq_nil_iff_forall_not_mem]
          intro s hs
          exact List.not_mem_nil (ha.name_mem_groups s hs)
        obtain ⟨n, hn, rfl⟩ := ha.exists_skip
        refine ⟨p.rest.take n :: values, p.rest.take n ++ text, ?_, .hole hspells, ?_⟩
        · rw [List.append_assoc, ← htext, Position.rest_skip, List.take_append_drop]
        · rw [List.filterMap_cons_some (b := groupName index) (by rfl), List.zip_cons_cons, hinner]
          simp [texts, Position.textTo_skip hn]

theorem leads_of_spells {ignoreCase : Bool} {ps : List Piece} {values : List (List Char)}
    {text : List Char} (h : Piece.Spells ignoreCase ps values text) {p : Position}
    {rest : List Char} (hp : p.rest = text ++ rest) :
    ∃ spans, Leads (.ofList (ps.map (Piece.expr ignoreCase))) p (p.skip text.length) spans := by
  -- The match takes the text piece by piece; what follows it in the source stays as it is.
  induction h generalizing p with
  | nil => exact ⟨[], .empty⟩
  | @char c d ps values text hd _ ih =>
    rw [List.cons_append] at hp
    obtain ⟨spans, hl⟩ := ih (p := ⟨p.index + 1, some d, text ++ rest⟩) rfl
    refine ⟨spans ++ [], ?_⟩
    rw [List.map_cons, leads_ofList_cons, List.length_cons, Position.skip_succ hp]
    exact ⟨_, _, _, .chars hp hd, hl, rfl⟩
  | @hole index value ps values text _ ih =>
    rw [List.append_assoc] at hp
    have hn : value.length ≤ p.rest.length := by
      rw [hp, List.length_append]
      omega
    have hbehind : (p.skip value.length).rest = text ++ rest := by
      rw [Position.rest_skip, hp, List.drop_left]
    obtain ⟨spans, hl⟩ := ih hbehind
    rw [Position.skip_add] at hl
    refine ⟨spans ++ [(groupName index, p, p.skip value.length)], ?_⟩
    rw [List.map_cons, leads_ofList_cons, List.length_append]
    exact ⟨_, _, _, .group (leads_anything hn), hl, rfl⟩

/-! ## The whole text -/

/-- The conditions around an expression hold its matches to the whole text. -/
theorem leads_between {a : Expr} {text : List Char} {p q : Position} {spans : List Span}
    (hp : p ∈ Position.all text) :
    Leads (.ofList [.look .textStart, a, .look .textStop]) p q spans ↔
      p = Position.start text ∧ q.rest = [] ∧ Leads a p q spans := by
  rw [leads_ofList_cons]
  constructor
  · -- The place before the text has nothing in front, so the match begins there.
    rintro ⟨p', first, then_, hstart, h, rfl⟩
    obtain ⟨q', inner, last, ha, hstop, rfl⟩ := leads_ofList_cons.mp h
    cases hstart with
    | look hl =>
    cases hstop with
    | look hr =>
    obtain ⟨n, hn, rfl⟩ := Position.mem_all_iff.mp hp
    have hzero : n = 0 := Position.before_skip_isNone hn (Option.isNone_iff_eq_none.mp hl)
    subst hzero
    refine ⟨rfl, ?_, ?_⟩
    · exact List.head?_eq_none_iff.mp (Option.isNone_iff_eq_none.mp hr)
    · rw [List.append_nil]
      exact ha
  · rintro ⟨rfl, hstop, ha⟩
    refine ⟨_, [], [] ++ spans, .look rfl, leads_ofList_cons.mpr ⟨q, spans, [], ha, ?_, rfl⟩,
      by simp⟩
    refine .look ?_
    rw [Look.holds, Position.after, hstop]
    rfl

theorem leads_verbatimExpr {ignoreCase : Bool} {ps : List Piece} {text : List Char}
    {p q : Position} {spans : List Span} (hp : p ∈ Position.all text) :
    Leads (verbatimExpr ignoreCase ps) p q spans ↔ p = Position.start text ∧ q.rest = [] ∧
      Leads (.ofList (ps.map (Piece.expr ignoreCase))) p q spans :=
  leads_between hp

/-- What is matched is a text that the pieces stand for, and each hole has its text there. -/
theorem spells_of_leads_verbatimExpr {ignoreCase : Bool} {ps : List Piece} {text : List Char}
    {p q : Position} {spans : List Span} (hp : p ∈ Position.all text)
    (h : Leads (verbatimExpr ignoreCase ps) p q spans) :
    ∃ values, Piece.Spells ignoreCase ps values text ∧
      texts spans = (ps.filterMap Piece.group?).zip values := by
  obtain ⟨rfl, hq, hpieces⟩ := (leads_verbatimExpr hp).mp h
  obtain ⟨values, part, hpart, hspells, htexts⟩ := spells_of_leads hpieces
  rw [hq, List.append_nil] at hpart
  change text = part at hpart
  exact ⟨values, hpart ▸ hspells, htexts⟩

theorem find_verbatimExpr_isSome_iff {ignoreCase : Bool} {ps : List Piece} {text : List Char} :
    ((verbatimExpr ignoreCase ps).find text).isSome = true ↔
      ∃ values, Piece.Spells ignoreCase ps values text := by
  rw [Expr.find_isSome_iff]
  constructor
  · rintro ⟨p, hp, q, spans, hl⟩
    obtain ⟨values, hspells, _⟩ := spells_of_leads_verbatimExpr hp hl
    exact ⟨values, hspells⟩
  · rintro ⟨values, hspells⟩
    have hrest : (Position.start text).rest = text ++ [] := (List.append_nil text).symm
    obtain ⟨spans, hl⟩ := leads_of_spells hspells hrest
    have hstart := Position.start_mem_all text
    refine ⟨_, hstart, _, spans, (leads_verbatimExpr hstart).mpr ⟨rfl, ?_, hl⟩⟩
    rw [Position.rest_skip]
    exact List.drop_length

/-- The expression for tokens finds something in the sources that they stand for. -/
theorem find_pieces_isSome_iff {ignoreCase : Bool} {bound : Bindings} {tokens : List Token}
    {source : String} :
    ((verbatimExpr ignoreCase (pieces bound 0 tokens)).find source.toList).isSome = true ↔
      ∃ values, Spells ignoreCase bound tokens values source := by
  rw [find_verbatimExpr_isSome_iff]
  constructor
  · rintro ⟨values, h⟩
    have h := h.toTokens
    rw [String.ofList_toList] at h
    exact ⟨_, h⟩
  · rintro ⟨values, h⟩
    exact ⟨_, h.toPieces 0⟩

/-- A template taken verbatim can be compiled unless it is too large. -/
theorem ofTemplate_literal {d : Delimiters} {ignoreCase : Bool} {bound : Bindings}
    {template : String} {tokens : List Token} (hlex : lex d template = .ok tokens)
    (hsize : ∀ limit, Program.compile (TemplateOptions.flags ⟨d, .literal, ignoreCase⟩)
      (source .literal bound tokens).1 ≠ .error (.tooLarge limit)) :
    Synthesis.ofTemplate ⟨d, .literal, ignoreCase⟩ bound template =
      .ok ⟨.program ⟨(source .literal bound tokens).1,
        verbatimExpr ignoreCase (pieces bound 0 tokens)⟩, (source .literal bound tokens).2,
        .literal⟩ := by
  -- What is written always compiles, so only its size could stand in the way.
  have hcompile : Program.compile (flagsOf ignoreCase) (source .literal bound tokens).1 =
      .ok ⟨(source .literal bound tokens).1, verbatimExpr ignoreCase (pieces bound 0 tokens)⟩ := by
    have hsize := hsize Program.sizeLimit
    change Program.compile (flagsOf ignoreCase) _ ≠ _ at hsize
    rw [compile_source_literal] at hsize ⊢
    split at hsize
    · next h => rw [if_pos h]
    · exact absurd rfl hsize
  have hflags : TemplateOptions.flags ⟨d, .literal, ignoreCase⟩ = flagsOf ignoreCase := rfl
  rw [Synthesis.ofTemplate, hlex]
  simp only [Synthesis.ofTokens, TemplateOptions.modeFor, Synthesis.verbatim, Synthesis.inMode]
  rw [hflags, hcompile]
  rfl

/-- A template taken verbatim can be compiled unless it is too large, and matches exactly the
sources that its tokens stand for. -/
theorem literal_isMatch_iff {d : Delimiters} {ignoreCase : Bool} {bound : Bindings}
    {template : String} {tokens : List Token} (hlex : lex d template = .ok tokens)
    (hsize : ∀ limit, Program.compile (TemplateOptions.flags ⟨d, .literal, ignoreCase⟩)
      (source .literal bound tokens).1 ≠ .error (.tooLarge limit)) :
    render d tokens = template ∧
      ∃ s, Synthesis.ofTemplate ⟨d, .literal, ignoreCase⟩ bound template = .ok s ∧
        ∀ text, s.isMatch text = true ↔ ∃ values, Spells ignoreCase bound tokens values text :=
  ⟨render_lex hlex, _, ofTemplate_literal hlex hsize, fun _ => find_pieces_isSome_iff⟩

theorem literal_isMatch_iff_punctuation :
    ∃ s, Synthesis.ofTemplate ⟨.standard, .literal, false⟩ (.ofPairs [("y", "1+1")])
        "a.c\n(~[y])~[x]" = .ok s ∧
      ∀ text, s.isMatch text = true ↔ ∃ values, Spells false (.ofPairs [("y", "1+1")])
        [.literal "a.c\n(", .placeholder 5 "y", .literal ")", .placeholder 10 "x"] values text := by
  have hlex : lex .standard "a.c\n(~[y])~[x]" =
      .ok [.literal "a.c\n(", .placeholder 5 "y", .literal ")", .placeholder 10 "x"] := by cbv
  refine (literal_isMatch_iff hlex fun limit => ?_).2
  change Program.compile (flagsOf false) _ ≠ _
  rw [compile_source_literal, if_pos (by decide)]
  exact fun h => by cases h

end TemplateMatch.Template
