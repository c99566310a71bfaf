import TemplateMatch.Template.Token

/-! Cutting a template into tokens loses nothing of it: written again, they are the template. -/

namespace TemplateMatch.Template

theorem toList_render (d : Delimiters) (tokens : List Token) :
    (render d tokens).toList = tokens.flatMap fun t => (t.render d).toList := by
  rw [render, String.toList_join, List.flatMap_map]

theorem flatMap_render_run (d : Delimiters) (text : List Char) :
    ((Token.run text).flatMap fun t => (t.render d).toList) = text := by
  rw [Token.run]
  split
  · next h => rw [List.isEmpty_iff.mp h, List.flatMap_nil]
  · rw [List.flatMap_singleton, Token.render, String.toList_ofList]

theorem toList_render_lexFrom {d : Delimiters} {offset : Nat} {text : List Char}
    {tokens : List Token} (h : lexFrom d offset text = .ok tokens) :
    (render d tokens).toList = text := by
  rw [toList_render]
  fun_induction lexFrom d offset text generalizing tokens with
  | case1 offset text _ | case2 offset text _ _ _ _ =>
    cases h
    exact flatMap_render_run d text
  | case3 | case4 => cases h
  | case5 _ text before opened hstart name after hstop _ _ _ rest hrest =>
    rename_i ih
    cases h
    rw [List.flatMap_append, flatMap_render_run, List.flatMap_cons, ih hrest,
      splitOnce_eq_some hstart, splitOnce_eq_some hstop, Token.render, Delimiters.enclose]
    simp

theorem render_lex {d : Delimiters} {template : String} {tokens : List Token}
    (h : lex d template = .ok tokens) : render d tokens = template :=
  String.toList_inj.mp (toList_render_lexFrom h)

end TemplateMatch.Template
