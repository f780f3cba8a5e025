import Mathlib.Data.List.Basic
import AccountServer.Text.Split

/-!
# Split texts

A text is split at the first occurrence of a character, so that the piece in front of it has none of
these (`splitFirst_eq_some_iff`); `splitLast` is the same from behind.
-/

namespace AccountServer.Text

variable {sep : Char}

theorem splitFirst_append {before : List Char} (h : sep ∉ before) (rest : List Char) :
    splitFirst sep (before ++ sep :: rest) = some (before, rest) := by
  induction before with
  | nil => simp [splitFirst]
  | cons c before ih =>
    obtain ⟨hc, hbefore⟩ := List.ne_and_not_mem_of_not_mem_cons h
    simp [splitFirst, Ne.symm hc, ih hbefore]

/-- What is in front of the first separator has none in it. -/
theorem splitFirst_eq_some_iff {cs before after : List Char} :
    splitFirst sep cs = some (before, after) ↔ sep ∉ before ∧ cs = before ++ sep :: after := by
  constructor
  · intro h
    induction cs generalizing before with
    | nil => cases h
    | cons c rest ih =>
      rw [splitFirst] at h
      by_cases hc : c = sep
      · rw [if_pos hc] at h
        cases h
        exact ⟨List.not_mem_nil, by rw [hc, List.nil_append]⟩
      · rw [if_neg hc] at h
        obtain ⟨⟨before', after'⟩, hrest, heq⟩ := Option.map_eq_some_iff.mp h
        cases heq
        obtain ⟨hbefore, rfl⟩ := ih hrest
        exact ⟨List.not_mem_cons_of_ne_of_not_mem (Ne.symm hc) hbefore, rfl⟩
  · rintro ⟨h, rfl⟩
    exact splitFirst_append h after

theorem splitLast_append {after : List Char} (h : sep ∉ after) (before : List Char) :
    splitLast sep (before ++ sep :: after) = some (before, after) := by
  have hreverse : (before ++ sep :: after).reverse = after.reverse ++ sep :: before.reverse := by
    simp
  rw [splitLast, hreverse, splitFirst_append (by simpa using h)]
  simp

/-- Nothing is lost but the last separator. -/
theorem eq_of_splitLast {cs before after : List Char}
    (h : splitLast sep cs = some (before, after)) : cs = before ++ sep :: after := by
  obtain ⟨⟨after', before'⟩, hfirst, heq⟩ := Option.map_eq_some_iff.mp h
  cases heq
  have hreverse := congrArg List.reverse (splitFirst_eq_some_iff.mp hfirst).2
  simpa using hreverse

theorem splitAll_ne_nil (sep : Char) (cs : List Char) : splitAll sep cs ≠ [] := by
  cases cs with
  | nil => exact List.cons_ne_nil _ _
  | cons c cs =>
    rw [splitAll]
    split
    · split <;> exact List.cons_ne_nil _ _
    · exact List.cons_ne_nil _ _

theorem splitAll_of_not_mem {cs : List Char} (h : sep ∉ cs) : splitAll sep cs = [cs] := by
  induction cs with
  | nil => rfl
  | cons c cs ih =>
    obtain ⟨hc, hcs⟩ := List.ne_and_not_mem_of_not_mem_cons h
    rw [splitAll, ih hcs]
    exact if_neg (Ne.symm hc)

/-- A text is split at its first separator, and then what is left of it. -/
theorem splitAll_append {before : List Char} (h : sep ∉ before) (rest : List Char) :
    splitAll sep (before ++ sep :: rest) = before :: splitAll sep rest := by
  induction before with
  | nil =>
    rw [List.nil_append, splitAll]
    split
    · next heq => rw [if_pos rfl, heq]
    · next heq => exact absurd heq (splitAll_ne_nil sep rest)
  | cons c before ih =>
    obtain ⟨hc, hbefore⟩ := List.ne_and_not_mem_of_not_mem_cons h
    rw [List.cons_append, splitAll, ih hbefore]
    exact if_neg (Ne.symm hc)

end AccountServer.Text
