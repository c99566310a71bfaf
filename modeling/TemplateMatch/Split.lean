/-! Cutting a text at the first occurrence of another one. -/

namespace TemplateMatch

/-- What follows in a text that begins with another one. -/
def afterPrefix? : List Char → List Char → Option (List Char)
  | [], text => some text
  | _ :: _, [] => none
  | s :: sep, c :: text => if s = c then afterPrefix? sep text else none

/-- What stands before the first occurrence of a separator, and what follows it. -/
def splitOnce (sep : List Char) : List Char → Option (List Char × List Char)
  | [] => (afterPrefix? sep []).map ([], ·)
  | c :: rest =>
    match afterPrefix? sep (c :: rest) with
    | some after => some ([], after)
    | none => (splitOnce sep rest).map fun cut => (c :: cut.1, cut.2)

theorem afterPrefix?_eq_some_iff {sep text after : List Char} :
    afterPrefix? sep text = some after ↔ text = sep ++ after := by
  induction sep generalizing text with
  | nil => simp [afterPrefix?]
  | cons s sep ih =>
    cases text with
    | nil => simp [afterPrefix?]
    | cons c rest =>
      rw [afterPrefix?]
      split
      · next h => rw [ih, h, List.cons_append, List.cons_inj_right]
      · next h => simp [Ne.symm h]

theorem splitOnce_eq_some {sep text before after : List Char}
    (h : splitOnce sep text = some (before, after)) : text = before ++ sep ++ after := by
  induction text generalizing before with
  | nil =>
    simp only [splitOnce, Option.map_eq_some_iff, Prod.mk.injEq] at h
    obtain ⟨rest, hp, rfl, rfl⟩ := h
    simpa using afterPrefix?_eq_some_iff.mp hp
  | cons c rest ih =>
    rw [splitOnce] at h
    split at h
    · next hp =>
      simp only [Option.some.injEq, Prod.mk.injEq] at h
      obtain ⟨rfl, rfl⟩ := h
      simpa using afterPrefix?_eq_some_iff.mp hp
    · simp only [Option.map_eq_some_iff, Prod.mk.injEq] at h
      obtain ⟨⟨b, a⟩, hs, rfl, rfl⟩ := h
      simp [ih hs]

end TemplateMatch
