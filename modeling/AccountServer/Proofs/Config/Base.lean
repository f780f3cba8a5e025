import AccountServer.Config.Basic
import AccountServer.Proofs.Text.Blank

/-!
# Mount points in their written form

`normalizeBase` cuts the blanks off first and the slashes at the end after them, each once. What it
gives begins with a slash and ends with one only if it is nothing else. But blanks that stood in
front of the slashes at the end are not cut off (`HidesBlank`), and no others stay at the end.

* `normalizeBase_eq_self_iff`: the texts that are in the written form.
* `hidesBlank_iff`: where a blank is left at the end.
-/

namespace AccountServer

open Text

/-- The base without the blanks around it and without the slashes then at its end. -/
def baseCore (base : String) : List Char := trimEndWhile (· == '/') (trim base.toList)

/-- The base, not counting the blanks around it, ends with slashes that have a blank in front of
them. -/
def HidesBlank (base : String) : Prop :=
  ∃ before blank slashes after, base.toList = before ++ blank :: (slashes ++ after) ∧
    (∃ c ∈ before, isBlank c = false) ∧ isBlank blank = true ∧
    slashes ≠ [] ∧ (∀ c ∈ slashes, c = '/') ∧ ∀ c ∈ after, isBlank c = true

theorem not_blank_slash : isBlank '/' = false := by decide

/-! ## What is left -/

theorem ne_slash_of_getLast?_baseCore {base : String} {c : Char}
    (h : (baseCore base).getLast? = some c) : c ≠ '/' := by
  simpa using eq_false_of_getLast?_trimEndWhile h

/-- Behind the slash in front, a normalized base ends as its core does. -/
theorem exists_toList_normalizeBase (base : String) :
    ∃ rest, (normalizeBase base).toList = '/' :: rest ∧
      rest.getLast? = (baseCore base).getLast? := by
  unfold normalizeBase
  cases hcore : baseCore base with
  | nil => exact ⟨[], by simp [show trimEndWhile _ _ = [] from hcore], rfl⟩
  | cons c rest =>
    have hcore' : trimEndWhile (· == '/') (trim base.toList) = c :: rest := hcore
    by_cases hc : c = '/'
    · subst hc
      refine ⟨rest, by simp [hcore'], ?_⟩
      cases rest with
      | nil => exact absurd rfl (ne_slash_of_getLast?_baseCore (c := '/') (by rw [hcore]; rfl))
      | cons d rest => simp
    · exact ⟨c :: rest, by simp [hcore', hc], rfl⟩

/-- A base begins with a slash once it has been normalized. -/
theorem head?_normalizeBase (base : String) :
    (normalizeBase base).toList.head? = some '/' := by
  obtain ⟨rest, hrest, -⟩ := exists_toList_normalizeBase base
  rw [hrest, List.head?_cons]

/-- It ends with one only if it is nothing but that. -/
theorem getLast?_normalizeBase_eq_slash_iff {base : String} :
    (normalizeBase base).toList.getLast? = some '/' ↔ normalizeBase base = "/" := by
  constructor
  · obtain ⟨rest, hrest, hlast⟩ := exists_toList_normalizeBase base
    intro h
    cases rest with
    | nil => exact String.toList_injective hrest
    | cons c rest =>
      rw [hrest, List.getLast?_cons_cons, hlast] at h
      exact absurd rfl (ne_slash_of_getLast?_baseCore h)
  · intro h
    rw [h]
    rfl

/-- The last character is a blank just if the core ends with one. -/
theorem exists_getLast?_normalizeBase_iff {base : String} :
    (∃ c, (normalizeBase base).toList.getLast? = some c ∧ isBlank c = true) ↔
      ∃ c, (baseCore base).getLast? = some c ∧ isBlank c = true := by
  obtain ⟨rest, hrest, hlast⟩ := exists_toList_normalizeBase base
  rw [hrest, ← hlast]
  cases rest with
  | nil => simp [not_blank_slash]
  | cons c rest => rw [List.getLast?_cons_cons]

/-! ## Hidden blanks -/

theorem getLast?_baseCore_of_hidesBlank {base : String} (h : HidesBlank base) :
    ∃ c, (baseCore base).getLast? = some c ∧ isBlank c = true := by
  obtain ⟨before, blank, slashes, after, hbase, hvisible, hblank, hne, hslashes, hafter⟩ := h
  have hstart : trimStart base.toList = trimStart before ++ blank :: (slashes ++ after) := by
    rw [hbase, trimStart_append hvisible]
  -- The last slash is the last character that is no blank, and the blank the last that is no slash.
  have htrim : trim base.toList = trimStart before ++ blank :: slashes := by
    obtain ⟨init, last, rfl⟩ := (List.eq_nil_or_concat' slashes).resolve_left hne
    obtain rfl : last = '/' := hslashes last (by simp)
    have hcut := trimEndWhile_append_cons not_blank_slash (trimStart before ++ blank :: init) hafter
    rw [trim, hstart]
    simpa using hcut
  have hcore : baseCore base = trimStart before ++ [blank] := by
    have hblank' : (blank == '/') = false := by
      rw [beq_eq_false_iff_ne]
      rintro rfl
      rw [not_blank_slash] at hblank
      contradiction
    rw [baseCore, htrim]
    exact trimEndWhile_append_cons (p := (· == '/')) hblank' _
      fun d hd => beq_iff_eq.mpr (hslashes d hd)
  exact ⟨blank, by simp [hcore], hblank⟩

theorem hidesBlank_of_getLast?_baseCore {base : String} {c : Char}
    (hlast : (baseCore base).getLast? = some c) (hblank : isBlank c = true) : HidesBlank base := by
  obtain ⟨init, hinit⟩ := List.getLast?_eq_some_iff.mp hlast
  obtain ⟨lead, hlead, -⟩ := exists_eq_append_trimStart base.toList
  obtain ⟨after, hafter, hblanks⟩ := exists_eq_trimEndWhile_append isBlank (trimStart base.toList)
  obtain ⟨slashes, hslashes, hall⟩ :=
    exists_eq_trimEndWhile_append (· == '/') (trim base.toList)
  change trim base.toList = baseCore base ++ slashes at hslashes
  change trimStart base.toList = trim base.toList ++ after at hafter
  have hstart : trimStart base.toList = init ++ c :: (slashes ++ after) := by
    rw [hafter, hslashes, hinit]
    simp
  refine ⟨lead ++ init, c, slashes, after, ?_, ?_, hblank, ?_, by simpa using hall, hblanks⟩
  · rw [hlead, hstart, List.append_assoc]
  · -- What is left begins with something else than a blank.
    cases init with
    | nil =>
      have hhead : (trimStart base.toList).head? = some c := by rw [hstart]; rfl
      rw [eq_false_of_head?_trimStart hhead] at hblank
      contradiction
    | cons d init =>
      have hhead : (trimStart base.toList).head? = some d := by rw [hstart]; rfl
      exact ⟨d, by simp, eq_false_of_head?_trimStart hhead⟩
  · rintro rfl
    -- Without slashes, the blank would have been cut off.
    have hend : (trimEndWhile isBlank (trimStart base.toList)).getLast? = some c := by
      show (trim base.toList).getLast? = some c
      rw [hslashes, List.append_nil, hlast]
    rw [eq_false_of_getLast?_trimEndWhile hend] at hblank
    contradiction

theorem hidesBlank_iff {base : String} :
    HidesBlank base ↔ ∃ c, (normalizeBase base).toList.getLast? = some c ∧ isBlank c = true := by
  rw [exists_getLast?_normalizeBase_iff]
  exact ⟨getLast?_baseCore_of_hidesBlank,
    fun ⟨_, hlast, hblank⟩ => hidesBlank_of_getLast?_baseCore hlast hblank⟩

/-! ## The written form -/

theorem normalizeBase_of_head? {base : String} (h : (baseCore base).head? = some '/') :
    normalizeBase base = String.ofList (baseCore base) := by
  unfold normalizeBase
  rw [show trimEndWhile (· == '/') (trim base.toList) = baseCore base from rfl]
  cases hcore : baseCore base with
  | nil => simp [hcore] at h
  | cons c rest =>
    obtain rfl : c = '/' := by simpa [hcore] using h
    rfl

/-- A text that begins with a slash is in the written form if it is the slash alone, or if there is
neither a slash nor a blank at its end. -/
theorem normalizeBase_eq_self_iff {base : String} (hhead : base.toList.head? = some '/') :
    normalizeBase base = base ↔
      base = "/" ∨ ∀ c, base.toList.getLast? = some c → c ≠ '/' ∧ isBlank c = false := by
  obtain ⟨rest, hrest⟩ := List.head?_eq_some_iff.mp hhead
  have htrim : trim base.toList = trimEndWhile isBlank base.toList := by
    rw [trim, hrest, trimStart_cons not_blank_slash]
  constructor
  · intro h
    by_cases hroot : base = "/"
    · exact Or.inl hroot
    have hcut : trim base.toList <+: base.toList := htrim ▸ isPrefix_trimEndWhile _ _
    have hcore : baseCore base = base.toList := by
      obtain ⟨tail, htail⟩ := (isPrefix_trimEndWhile (· == '/') _).trans hcut
      change baseCore base ++ tail = base.toList at htail
      cases hcore : baseCore base with
      | nil =>
        obtain ⟨rest', hrest', hlast⟩ := exists_toList_normalizeBase base
        rw [hcore, List.getLast?_nil, List.getLast?_eq_none_iff] at hlast
        rw [h, hlast] at hrest'
        exact absurd (String.toList_injective hrest') hroot
      | cons c core =>
        have hc : (baseCore base).head? = some '/' := by
          rw [← htail, hcore] at hhead
          rw [hcore]
          exact hhead
        rw [normalizeBase_of_head? hc] at h
        rw [← hcore]
        exact String.toList_ofList.symm.trans (congrArg String.toList h)
    -- What is left is the whole text, so the blanks and the slashes that were cut off are none.
    have hwhole : trim base.toList = base.toList :=
      hcut.eq_of_length_le (by
        calc base.toList.length = (baseCore base).length := by rw [hcore]
          _ ≤ (trim base.toList).length := (isPrefix_trimEndWhile _ _).length_le)
    have hblank := trimEndWhile_eq_self_iff.mp (htrim.symm.trans hwhole)
    exact Or.inr fun c hc => ⟨ne_slash_of_getLast?_baseCore (hcore ▸ hc), hblank c hc⟩
  · rintro (rfl | hlast)
    · rfl
    · have hblank : trim base.toList = base.toList :=
        htrim.trans (trimEndWhile_eq_self_iff.mpr fun c hc => (hlast c hc).2)
      have hcore : baseCore base = base.toList := by
        rw [baseCore, hblank]
        exact trimEndWhile_eq_self_iff.mpr fun c hc => by simpa using (hlast c hc).1
      rw [normalizeBase_of_head? (by rw [hcore, hhead]), hcore, String.ofList_toList]

/-- **Mount points are in their written form unless a blank was hidden.** The path that is made of a
base begins with a slash, so that no blank is in front of it, and it ends with a slash only if it is
nothing else. It ends with a blank, and would be made shorter once more, exactly if the base hides a
blank in front of the slashes at its end. -/
theorem normalizeBase_canonical_iff (base : String) :
    let path := normalizeBase base
    path.toList.head? = some '/' ∧ (path.toList.getLast? = some '/' ↔ path = "/") ∧
      trimStart path.toList = path.toList ∧
      (trim path.toList = path.toList ↔ ¬ HidesBlank base) ∧
      (normalizeBase path = path ↔ ¬ HidesBlank base) := by
  intro path
  obtain ⟨rest, hrest, -⟩ := exists_toList_normalizeBase base
  have hstart : trimStart path.toList = path.toList := by
    rw [hrest, trimStart_cons not_blank_slash]
  have hhides : (∀ c, path.toList.getLast? = some c → isBlank c = false) ↔ ¬ HidesBlank base := by
    simp [hidesBlank_iff, path]
  refine ⟨head?_normalizeBase base, getLast?_normalizeBase_eq_slash_iff, hstart, ?_, ?_⟩
  · rw [← hhides, trim, hstart, trimEndWhile_eq_self_iff]
  · rw [← hhides, normalizeBase_eq_self_iff (head?_normalizeBase base)]
    constructor
    · rintro (hroot | hlast) c hc
      · change path = "/" at hroot
        obtain rfl : '/' = c := by simpa [hroot] using hc
        exact not_blank_slash
      · exact (hlast c hc).2
    · intro hblank
      refine or_iff_not_imp_left.mpr fun hroot c hc => ⟨?_, hblank c hc⟩
      rintro rfl
      exact hroot (getLast?_normalizeBase_eq_slash_iff.mp hc)

/-- A blank between a name and a slash. -/
theorem normalizeBase_keeps_blank :
    normalizeBase "auth /" = "/auth " ∧ normalizeBase (normalizeBase "auth /") = "/auth" := by
  decide +kernel

end AccountServer
