import Mathlib.Data.List.DropRight
import AccountServer.Text.Blank

/-!
# Trimmed texts

What is cut off at an end passes the test, and the character behind it, which is now the first or
the last one, does not.
-/

namespace AccountServer.Text

variable {p : Char → Bool} {cs : List Char}

/-! ## The end -/

theorem isPrefix_trimEndWhile (p : Char → Bool) (cs : List Char) : trimEndWhile p cs <+: cs :=
  List.rdropWhile_prefix p cs

/-- Nothing is cut off the end exactly if the last character may stay. -/
theorem trimEndWhile_eq_self_iff :
    trimEndWhile p cs = cs ↔ ∀ c, cs.getLast? = some c → p c = false := by
  have hself : trimEndWhile p cs = cs ↔ ∀ hne : cs ≠ [], ¬ p (cs.getLast hne) :=
    List.rdropWhile_eq_self_iff
  rw [hself]
  constructor
  · intro h c hc
    obtain ⟨before, rfl⟩ := List.getLast?_eq_some_iff.mp hc
    simpa using h (by simp)
  · intro h hne
    simpa using h _ (List.getLast?_eq_some_getLast hne)

/-- The last character of what is left does not pass the test. -/
theorem eq_false_of_getLast?_trimEndWhile {c : Char}
    (h : (trimEndWhile p cs).getLast? = some c) : p c = false :=
  trimEndWhile_eq_self_iff.mp (List.rdropWhile_idempotent p cs) c h

theorem exists_eq_trimEndWhile_append (p : Char → Bool) (cs : List Char) :
    ∃ cut, cs = trimEndWhile p cs ++ cut ∧ ∀ c ∈ cut, p c = true :=
  ⟨cs.rtakeWhile p, List.rdropWhile_append_rtakeWhile.symm, fun _ => List.mem_rtakeWhile_imp⟩

/-- A text is cut off behind the last character that does not pass the test. -/
theorem trimEndWhile_append_cons {c : Char} (hc : p c = false) (before : List Char)
    {after : List Char} (hafter : ∀ d ∈ after, p d = true) :
    trimEndWhile p (before ++ c :: after) = before ++ [c] := by
  have hreverse : (before ++ c :: after).reverse = after.reverse ++ c :: before.reverse := by simp
  have hcut : after.reverse.dropWhile p = [] := by simpa using hafter
  rw [trimEndWhile, hreverse, List.dropWhile_append, hcut]
  simp [hc]

/-! ## The beginning -/

theorem trimStart_cons {c : Char} (h : isBlank c = false) (cs : List Char) :
    trimStart (c :: cs) = c :: cs := by
  simp [trimStart, h]

/-- What is left does not begin with a blank. -/
theorem eq_false_of_head?_trimStart {c : Char} (h : (trimStart cs).head? = some c) :
    isBlank c = false := by
  have hhead := List.head?_dropWhile_not isBlank cs
  rw [show cs.dropWhile isBlank = trimStart cs from rfl, h] at hhead
  simpa using hhead

theorem exists_eq_append_trimStart (cs : List Char) :
    ∃ cut, cs = cut ++ trimStart cs ∧ ∀ c ∈ cut, isBlank c = true :=
  ⟨cs.takeWhile isBlank, List.takeWhile_append_dropWhile.symm, fun _ => List.mem_takeWhile_imp⟩

/-- What follows a character that is no blank stays. -/
theorem trimStart_append {before : List Char} (h : ∃ c ∈ before, isBlank c = false)
    (rest : List Char) : trimStart (before ++ rest) = trimStart before ++ rest := by
  have hne : before.dropWhile isBlank ≠ [] := by
    intro hnil
    obtain ⟨c, hc, hblank⟩ := h
    have hall := List.dropWhile_eq_nil_iff.mp hnil c hc
    rw [hblank] at hall
    contradiction
  rw [trimStart, List.dropWhile_append, if_neg (by simpa using hne)]
  rfl

end AccountServer.Text
