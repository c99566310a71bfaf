import Mathlib.Data.List.Nodup
import Std.Data.String.ToNat
import TemplateMatch.Proofs.Results
import TemplateMatch.Template.Synthesis

/-!
Templates taken verbatim, as expressions. What is written for the tokens is read back as one literal
for each character and one group for each unbound placeholder (`compile_source_literal`), whatever
characters the template and the bound values hold.
-/

namespace TemplateMatch.Template

open Regex

/-- A part of a template that is taken verbatim. -/
inductive Piece
  | char (c : Char)
  /-- An unbound placeholder with its number. -/
  | hole (index : Nat)

namespace Piece

def written : Piece → List Char
  | char c => escapeChars [c]
  | hole index => (captureGroup index).toList

def group? : Piece → Option String
  | char _ => none
  | hole index => some (groupName index)

def tree : Piece → Tree
  | char c => .literal ⟨c, false⟩
  | hole index => .group (.capture (some (groupName index))) (.repetition 0 none false .dot)

/-- The characters that one character of a template matches. -/
def matched (ignoreCase : Bool) (c : Char) : CharSet :=
  if ignoreCase then .represented (Unicode.fold c) else .single c

def expr (ignoreCase : Bool) : Piece → Expr
  | char c => .chars (matched ignoreCase c)
  | hole index => .group (groupName index) (.repetition 0 none false (.chars .any))

end Piece

/-- The characters of tokens and bound values, and the unbound placeholders, the first of which gets
the number `index`. -/
def pieces (bound : Bindings) (index : Nat) : List Token → List Piece
  | [] => []
  | .literal text :: tokens => text.toList.map .char ++ pieces bound index tokens
  | .placeholder _ name :: tokens =>
    match bound name with
    | some value => value.toList.map .char ++ pieces bound index tokens
    | none => .hole index :: pieces bound (index + 1) tokens

/-! ## What is written -/

theorem flatMap_written_char (text : List Char) :
    (text.map Piece.char).flatMap Piece.written = escapeChars text := by
  rw [List.flatMap_map]
  simp [Piece.written, escapeChars]

theorem toList_body_literal (bound : Bindings) (index : Nat) (tokens : List Token) :
    (body .literal bound index tokens).1.toList =
      (pieces bound index tokens).flatMap Piece.written := by
  induction tokens generalizing index with
  | nil => rfl
  | cons token tokens ih =>
    cases token with
    | literal text =>
      rw [body, pieces, List.flatMap_append, flatMap_written_char, ← ih]
      simp [escape]
    | placeholder position name =>
      rw [body, pieces]
      cases bound name with
      | some value =>
        simp only [List.flatMap_append, flatMap_written_char, ← ih]
        simp [escape]
      | none =>
        simp only [List.flatMap_cons, ← ih, String.toList_append]
        rfl

/-- The groups are numbered in order. -/
theorem filterMap_group?_pieces (bound : Bindings) (index : Nat) (tokens : List Token) :
    (pieces bound index tokens).filterMap Piece.group? =
      (List.range' index (body .literal bound index tokens).2.length).map groupName := by
  have hchars (text : List Char) : (text.map Piece.char).filterMap Piece.group? = [] := by
    rw [List.filterMap_map, List.filterMap_eq_nil_iff]
    intro c _
    rfl
  induction tokens generalizing index with
  | nil => rfl
  | cons token tokens ih =>
    cases token with
    | literal text => rw [body, pieces, List.filterMap_append, hchars, ih]; rfl
    | placeholder position name =>
      rw [body, pieces]
      cases bound name with
      | some value => simp only [List.filterMap_append, hchars, ih, List.nil_append]
      | none =>
        simp only [List.length_cons, List.range'_succ, List.map_cons]
        rw [List.filterMap_cons_some (by rfl), ih]

/-! ## Group names -/

theorem toList_groupName (index : Nat) :
    (groupName index).toList = ['_', '_', 'p', 'h'] ++ Nat.toDigits 10 index := by
  rw [groupName, String.toList_append]
  change "__ph".toList ++ (Nat.repr index).toList = _
  rw [Nat.toList_repr]
  rfl

theorem groupName_injective : Function.Injective groupName := by
  intro i j h
  apply Nat.repr_injective
  apply String.toList_inj.mp
  have h := congrArg String.toList h
  rw [toList_groupName, toList_groupName, List.append_cancel_left_eq] at h
  rw [Nat.toList_repr, Nat.toList_repr, h]

theorem isNamePart_of_isDigit {c : Char} (h : c.isDigit = true) : isNamePart c = true := by
  have hc : Unicode.isAlphanumeric c = true := by
    have hn : c.toNat < 0x80 := by
      simp only [Char.isDigit, Bool.and_eq_true, decide_eq_true_eq] at h
      have := UInt32.le_iff_toNat_le.mp h.2
      change c.toNat ≤ 57 at this
      omega
    rw [Unicode.isAlphanumeric, if_pos hn, Char.isAlphanum, h, Bool.or_true]
  rw [isNamePart, hc, Bool.or_true]

theorem ne_close_of_isDigit {c : Char} (h : c.isDigit = true) : c ≠ '>' := by
  rintro rfl
  exact absurd h (by decide)

theorem readGroupName_groupName {names : List String} {index : Nat} (rest : List Char)
    (h : groupName index ∉ names) :
    readGroupName names ((groupName index).toList ++ '>' :: rest) =
      .ok (groupName index, rest) := by
  have hd : ∀ c ∈ Nat.toDigits 10 index, c.isDigit = true :=
    fun c hc => Nat.isDigit_of_mem_toDigits (by decide) (by decide) hc
  have hne : ∀ c ∈ (groupName index).toList, (c != '>') = true := by
    intro c hc
    rw [toList_groupName, List.mem_append] at hc
    rcases hc with hc | hc
    · have hall : ['_', '_', 'p', 'h'].all (· != '>') = true := by decide
      exact List.all_eq_true.mp hall c hc
    · exact bne_iff_ne.mpr (ne_close_of_isDigit (hd c hc))
  have hparts : (['_', 'p', 'h'] ++ Nat.toDigits 10 index).all isNamePart = true := by
    rw [List.all_append, List.all_eq_true.mpr fun c hc => isNamePart_of_isDigit (hd c hc)]
    decide
  -- The name goes up to the first `>`, and there is none in it.
  have htake : ((groupName index).toList ++ '>' :: rest).takeWhile (· != '>') =
      '_' :: (['_', 'p', 'h'] ++ Nat.toDigits 10 index) := by
    rw [List.takeWhile_append_of_pos hne, List.takeWhile_cons_of_neg (by decide),
      List.append_nil, toList_groupName]
    rfl
  have hdrop : ((groupName index).toList ++ '>' :: rest).dropWhile (· != '>') = '>' :: rest := by
    rw [List.dropWhile_append_of_pos hne, List.dropWhile_cons_of_neg (by decide)]
  have hname : String.ofList ('_' :: (['_', 'p', 'h'] ++ Nat.toDigits 10 index)) =
      groupName index := by
    rw [← String.toList_inj, String.toList_ofList, toList_groupName]
    rfl
  rw [readGroupName, htake, hdrop]
  simp only [hparts, hname, Bool.and_true, List.contains_eq_mem, h, decide_false,
    Bool.false_eq_true, if_false]
  rw [if_pos (by decide)]

/-! ## Reading it back -/

theorem isDigit_of_isMeta {c : Char} (h : isMeta c = true) : c.isDigit = false := by
  simp only [isMeta, Bool.or_eq_true, beq_iff_eq] at h
  rcases h with ((((((((((((((((h | h) | h) | h) | h) | h) | h) | h) | h) | h) | h) | h) | h) | h)
    | h) | h) | h) | h <;> subst h <;> decide

/-- A character without a meaning of its own begins nothing. -/
theorem ne_of_not_isMeta {c d : Char} (h : isMeta c = false) (hd : isMeta d = true) : c ≠ d := by
  rintro rfl
  rw [hd] at h
  exact Bool.noConfusion h

variable {branches items : List Tree} {names : List String} {rest : List Char}

theorem readBranches_char (fuel : Nat) (c : Char) :
    readBranches (fuel + 1) ⟨false, names⟩ branches items (escapeChars [c] ++ rest) =
      readBranches fuel ⟨false, names⟩ branches (.literal ⟨c, false⟩ :: items) rest := by
  rw [escapeChars_cons, escapeChars_nil, List.append_nil]
  cases hc : isMeta c with
  | true =>
    -- Written with a backslash, which the reader takes for a literal.
    rw [if_pos rfl]
    change readBranches (fuel + 1) _ branches items ('\\' :: c :: rest) = _
    rw [readBranches]
    simp only [layout_false]
    rw [if_neg (by decide), if_neg (by decide), if_neg (by decide), if_neg (by decide),
      if_neg (by decide), readPrimitive, if_pos rfl,
      readEscape_escapable (isDigit_of_isMeta hc) (by rw [isEscapable, hc, Bool.true_or])]
    rfl
  | false =>
    -- Written as it is; no case of the reader but the last applies to it.
    rw [if_neg (by decide)]
    change readBranches (fuel + 1) _ branches items (c :: rest) = _
    have hop : isRepetitionOp c = false := by
      simp only [isRepetitionOp, Bool.or_eq_false_iff, beq_eq_false_iff_ne]
      exact ⟨⟨⟨ne_of_not_isMeta hc (by decide), ne_of_not_isMeta hc (by decide)⟩,
        ne_of_not_isMeta hc (by decide)⟩, ne_of_not_isMeta hc (by decide)⟩
    rw [readBranches]
    simp only [layout_false, hop, Bool.false_eq_true, if_false]
    rw [if_neg (ne_of_not_isMeta hc (by decide)), if_neg (ne_of_not_isMeta hc (by decide)),
      if_neg (ne_of_not_isMeta hc (by decide)), if_neg (ne_of_not_isMeta hc (by decide)),
      readPrimitive, if_neg (ne_of_not_isMeta hc (by decide)),
      if_neg (ne_of_not_isMeta hc (by decide)), if_neg (ne_of_not_isMeta hc (by decide)),
      if_neg (ne_of_not_isMeta hc (by decide))]
    rfl

theorem readOpening_group {index : Nat} (rest : List Char) (h : groupName index ∉ names) :
    readOpening ⟨false, names⟩ ('?' :: 'P' :: '<' :: ((groupName index).toList ++ '>' :: rest)) =
      .ok (.group (.capture (some (groupName index))), ⟨false, groupName index :: names⟩,
        rest) := by
  simp only [readOpening, layout_false]
  rw [readGroupName_groupName rest h]
  rfl

/-- A lazy dot that may be repeated, up to the parenthesis that closes its group. -/
theorem readBranches_anything (fuel : Nat) :
    readBranches (fuel + 3) ⟨false, names⟩ [] [] ('.' :: '*' :: '?' :: ')' :: rest) =
      .ok (.repetition 0 none false .dot, ⟨false, names⟩, ')' :: rest) := rfl

theorem readBranches_hole {fuel index : Nat} (h : groupName index ∉ names) :
    readBranches (fuel + 4) ⟨false, names⟩ branches items ((captureGroup index).toList ++ rest) =
      readBranches (fuel + 3) ⟨false, groupName index :: names⟩ branches
        ((Piece.hole index).tree :: items) rest := by
  have hw : (captureGroup index).toList ++ rest =
      '(' :: '?' :: 'P' :: '<' ::
        ((groupName index).toList ++ '>' :: '.' :: '*' :: '?' :: ')' :: rest) := by
    rw [captureGroup, String.toList_append, String.toList_append, List.append_assoc,
      List.append_assoc]
    rfl
  rw [hw, readBranches]
  simp only [layout_false]
  rw [if_neg (by decide), if_neg (by decide), if_pos trivial, readOpening_group _ h]
  simp only
  rw [readBranches_anything]
  rfl

/-- Each piece takes one round, and three more have to be left for a group's inside. -/
theorem readBranches_pieces (fuel : Nat) (ps : List Piece)
    (h : ((ps.filterMap Piece.group?).reverse ++ names).Nodup) :
    readBranches (fuel + 3 + ps.length) ⟨false, names⟩ branches items
        (ps.flatMap Piece.written ++ rest) =
      readBranches (fuel + 3) ⟨false, (ps.filterMap Piece.group?).reverse ++ names⟩ branches
        ((ps.map Piece.tree).reverse ++ items) rest := by
  induction ps generalizing names items with
  | nil => rfl
  | cons p ps ih =>
    rw [List.flatMap_cons, List.append_assoc, List.length_cons, List.map_cons, List.reverse_cons,
      List.append_assoc]
    cases p with
    | char c =>
      rw [List.filterMap_cons_none (by rfl)] at h ⊢
      change readBranches (fuel + 3 + ps.length + 1) _ _ _ (escapeChars [c] ++ _) = _
      rw [readBranches_char, ih h]
      rfl
    | hole index =>
      rw [List.filterMap_cons_some (b := groupName index) (by rfl), List.reverse_cons,
        List.append_assoc] at h ⊢
      -- The names read so far stand last first, so the new one is next to them.
      have hnew : groupName index ∉ names :=
        (List.nodup_cons.mp (List.nodup_append.mp h).2.1).1
      change readBranches (fuel + 3 + ps.length + 1) _ _ _ ((captureGroup index).toList ++ _) = _
      rw [show fuel + 3 + ps.length + 1 = fuel + ps.length + 4 by omega, readBranches_hole hnew,
        show fuel + ps.length + 3 = fuel + 3 + ps.length by omega]
      exact ih h

/-! ## The whole expression -/

/-- Pieces between the start and the end of the text. -/
def verbatimTree (ps : List Piece) : Tree :=
  .concat [.assertion .textStart, .group (.flags []) (.ofSequence (ps.map Piece.tree)),
    .assertion .textStop]

def verbatimExpr (ignoreCase : Bool) (ps : List Piece) : Expr :=
  .ofList [.look .textStart, .ofList (ps.map (Piece.expr ignoreCase)), .look .textStop]

theorem length_le_length_written (ps : List Piece) :
    ps.length ≤ (ps.flatMap Piece.written).length := by
  induction ps with
  | nil => exact Nat.zero_le _
  | cons p ps ih =>
    have hp : 0 < p.written.length := by
      cases p with
      | char c =>
        rw [Piece.written, escapeChars_cons]
        split <;> simp
      | hole index => simp [Piece.written, captureGroup]
    rw [List.flatMap_cons, List.length_append, List.length_cons]
    omega

theorem height_ofSequence_le (ps : List Piece) :
    (Tree.ofSequence (ps.map Piece.tree)).height ≤ 3 := by
  have hp (p : Piece) : p.tree.height ≤ 2 := by
    cases p with
    | char c => exact Nat.zero_le 2
    | hole index => exact Nat.le_refl 2
  have hs : Tree.heights (ps.map Piece.tree) ≤ 2 := by
    induction ps with
    | nil => exact Nat.zero_le _
    | cons p ps ih =>
      rw [List.map_cons, Tree.heights]
      exact Nat.max_le.mpr ⟨hp p, ih⟩
  -- Only from two pieces on is there a node above them.
  match ps with
  | [] => exact Nat.zero_le _
  | [p] => exact Nat.le_trans (hp p) (by decide)
  | p :: q :: ps =>
    change Regex.Tree.height (.concat ((p :: q :: ps).map Piece.tree)) ≤ 3
    rw [Regex.Tree.height]
    omega

/-- The group around the pieces is read to its end. -/
theorem readBranches_pieces_closed (fuel : Nat) {ps : List Piece}
    (h : (ps.filterMap Piece.group?).Nodup) :
    readBranches (fuel + 3 + ps.length) ⟨false, []⟩ [] []
        (ps.flatMap Piece.written ++ [')', '\\', 'z']) =
      .ok (.ofSequence (ps.map Piece.tree), ⟨false, (ps.filterMap Piece.group?).reverse⟩,
        [')', '\\', 'z']) := by
  have hnames : ((ps.filterMap Piece.group?).reverse ++ []).Nodup := by
    rw [List.append_nil]
    exact List.nodup_reverse.mpr h
  rw [readBranches_pieces fuel ps hnames, List.append_nil, List.append_nil, readBranches]
  simp only [layout_false]
  rw [if_pos trivial, List.reverse_reverse]
  rfl

theorem readBranches_anchored (fuel : Nat) {ps : List Piece}
    (h : (ps.filterMap Piece.group?).Nodup) :
    readBranches (fuel + 4 + 3 + ps.length + 2) ⟨false, []⟩ [] []
        (['\\', 'A', '(', '?', ':'] ++ (ps.flatMap Piece.written ++ [')', '\\', 'z'])) =
      .ok (verbatimTree ps, ⟨false, (ps.filterMap Piece.group?).reverse⟩, []) := by
  change readBranches (fuel + 4 + 3 + ps.length + 1 + 1) ⟨false, []⟩ [] []
    ('\\' :: 'A' :: '(' :: '?' :: ':' :: (ps.flatMap Piece.written ++ [')', '\\', 'z'])) = _
  rw [readBranches]
  change readBranches (fuel + 4 + 3 + ps.length + 1) ⟨false, []⟩ [] [.assertion .textStart]
    ('(' :: '?' :: ':' :: (ps.flatMap Piece.written ++ [')', '\\', 'z'])) = _
  rw [readBranches]
  simp only [layout_false]
  rw [if_neg (by decide), if_neg (by decide), if_pos trivial]
  have hopen : readOpening ⟨false, []⟩
      ('?' :: ':' :: (ps.flatMap Piece.written ++ [')', '\\', 'z'])) =
      .ok (.group (.flags []), ⟨false, []⟩, ps.flatMap Piece.written ++ [')', '\\', 'z']) := rfl
  rw [hopen]
  simp only [readBranches_pieces_closed (fuel + 4) h]
  rw [show fuel + 4 + 3 + ps.length = fuel + 5 + ps.length + 2 by omega]
  rfl

theorem read_anchored {ps : List Piece} (h : (ps.filterMap Piece.group?).Nodup) :
    Tree.read (['\\', 'A', '(', '?', ':'] ++ (ps.flatMap Piece.written ++ [')', '\\', 'z'])) =
      .ok (verbatimTree ps) := by
  -- The fuel is the length of the text, so there is one for each piece and some to spare.
  obtain ⟨spare, hspare⟩ := Nat.exists_eq_add_of_le (length_le_length_written ps)
  have hfuel : (['\\', 'A', '(', '?', ':'] ++
      (ps.flatMap Piece.written ++ [')', '\\', 'z'])).length + 1 =
      spare + 4 + 3 + ps.length + 2 := by
    simp only [List.length_append, List.length_cons, List.length_nil]
    omega
  rw [Tree.read, hfuel, readBranches_anchored spare h]
  simp only
  rw [if_pos]
  have := height_ofSequence_le ps
  simp only [verbatimTree, Regex.Tree.height, Tree.heights, Tree.heightLimit]
  omega

/-- The flags that a template in this case mode is compiled with. -/
abbrev flagsOf (ignoreCase : Bool) : Flags := { ignoreCase }

theorem meanings_tree (ignoreCase : Bool) (ps : List Piece) :
    Tree.meanings (flagsOf ignoreCase) (ps.map Piece.tree) =
      .ok (ps.map (Piece.expr ignoreCase), flagsOf ignoreCase) := by
  induction ps with
  | nil => rfl
  | cons p ps ih =>
    have hp : Tree.meaning (flagsOf ignoreCase) p.tree =
        .ok (p.expr ignoreCase, flagsOf ignoreCase) := by
      cases p <;> cases ignoreCase <;> rfl
    rw [List.map_cons, Tree.meanings, hp]
    simp only [bind, Except.bind, ih]
    rfl

theorem meaning_ofSequence {fl after : Flags} {ts : List Tree} {a : Expr} :
    Tree.meaning fl (.ofSequence ts) = .ok (a, after) ↔
      ∃ es, Tree.meanings fl ts = .ok (es, after) ∧ a = .ofList es := by
  have hmeaning : Tree.meaning fl (.ofSequence ts) =
      (Tree.meanings fl ts).map fun r => (.ofList r.1, r.2) := by
    match ts with
    | [] => rfl
    | [t] =>
      change Tree.meaning fl t = _
      simp only [Tree.meanings, bind, Except.bind]
      cases Tree.meaning fl t <;> rfl
    | t :: u :: ts =>
      change Tree.meaning fl (.concat (t :: u :: ts)) = _
      rw [Tree.meaning]
      cases Tree.meanings fl (t :: u :: ts) <;> rfl
  rw [hmeaning, map_eq_ok]
  constructor
  · rintro ⟨⟨es, _⟩, h, heq⟩
    cases heq
    exact ⟨es, h, rfl⟩
  · rintro ⟨es, h, rfl⟩
    exact ⟨_, h, rfl⟩

theorem meaning_verbatimTree (ignoreCase : Bool) (ps : List Piece) :
    (verbatimTree ps).meaning (flagsOf ignoreCase) =
      .ok (verbatimExpr ignoreCase ps, flagsOf ignoreCase) := by
  have h := meaning_ofSequence.mpr ⟨_, meanings_tree ignoreCase ps, rfl⟩
  rw [verbatimTree]
  simp only [Tree.meaning, Tree.meanings, Flags.apply, Flags.applyFrom, bind, Except.bind, h]
  rfl

theorem nodup_group?_pieces (bound : Bindings) (index : Nat) (tokens : List Token) :
    ((pieces bound index tokens).filterMap Piece.group?).Nodup := by
  rw [filterMap_group?_pieces]
  exact (List.nodup_range' (h := by decide)).map groupName_injective

/-- What is written for tokens taken verbatim is an expression that takes them verbatim. -/
theorem compile_source_literal (ignoreCase : Bool) (bound : Bindings) (tokens : List Token) :
    Program.compile (flagsOf ignoreCase) (source .literal bound tokens).1 =
      if (verbatimExpr ignoreCase (pieces bound 0 tokens)).size ≤ Program.sizeLimit then
        .ok ⟨(source .literal bound tokens).1, verbatimExpr ignoreCase (pieces bound 0 tokens)⟩
      else .error (.tooLarge Program.sizeLimit) := by
  have hsource : (source .literal bound tokens).1.toList = ['\\', 'A', '(', '?', ':'] ++
      ((pieces bound 0 tokens).flatMap Piece.written ++ [')', '\\', 'z']) := by
    rw [source, anchored, String.toList_append, String.toList_append, toList_body_literal,
      List.append_assoc]
    rfl
  rw [Program.compile, hsource, read_anchored (nodup_group?_pieces bound 0 tokens)]
  simp only [meaning_verbatimTree]

end TemplateMatch.Template
