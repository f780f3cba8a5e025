import Mathlib.Data.List.TakeWhile
import AccountServer.Http.Pattern
import AccountServer.Proofs.Text.Split

/-!
# Which paths are patterns

A path is a pattern if each of its parts is plain text with at most one parameter, which is then the
end of the part (`isSome_parse?_iff`). A pattern is read part by part, so that a path that goes on
at a slash is read as its two pieces are (`parse?_append`).

Two patterns match the same paths if they have the same `shape`, which has the letters of a pattern
and leaves out the names of its parameters.
-/

namespace AccountServer

/-! ## Shapes -/

/-- The letter of a piece, if it is one. -/
def PathPiece.shape : PathPiece → Option Char
  | .letter c => some c
  | .parameter _ => none

namespace PathPattern

/-- The pieces without the names of parameters. -/
def shape (p : PathPattern) : List (Option Char) := p.map PathPiece.shape

/-- Patterns have the same shape if they differ in the names of parameters at most. -/
theorem sameShape_iff : ∀ {p q : PathPattern}, sameShape p q = true ↔ shape p = shape q
  | [], [] => by simp [sameShape, shape]
  | [], _ :: _ | _ :: _, [] => by simp [sameShape, shape]
  | .letter c :: p, .letter d :: q | .parameter _ :: p, .parameter _ :: q => by
    simp [sameShape, shape, PathPiece.shape, sameShape_iff (p := p) (q := q)]
  | .letter c :: p, .parameter _ :: q | .parameter _ :: p, .letter d :: q => by
    simp [sameShape, shape, PathPiece.shape]

/-! ## Reading -/

/-- Text without the signs of parameters. -/
def Plain (cs : List Char) : Prop := ':' ∉ cs ∧ '*' ∉ cs

/-- Text that can name a parameter. -/
def IsName (cs : List Char) : Prop := cs ≠ [] ∧ Plain cs

instance (cs : List Char) : Decidable (IsName cs) :=
  inferInstanceAs (Decidable (cs ≠ [] ∧ ':' ∉ cs ∧ '*' ∉ cs))

/-- The text ends here or goes on with a slash. -/
def AtSlash (rest : List Char) : Prop := ∀ c, rest.head? = some c → c = '/'

theorem atSlash_cons (rest : List Char) : AtSlash ('/' :: rest) := fun _ h =>
  (Option.some.inj h).symm

theorem AtSlash.append {rest tail : List Char} (hrest : AtSlash rest) (htail : AtSlash tail) :
    AtSlash (rest ++ tail) := by
  cases rest with
  | nil => exact htail
  | cons c rest => exact fun d h => hrest d h

theorem parse?_nil : parse? [] = some [] := by rw [parse?]

theorem parse?_asterisk (rest : List Char) : parse? ('*' :: rest) = none := by
  rw [parse?, if_pos rfl]

theorem parse?_letter {c : Char} (hasterisk : c ≠ '*') (hcolon : c ≠ ':') (rest : List Char) :
    parse? (c :: rest) = (parse? rest).map (.letter c :: ·) := by
  rw [parse?, if_neg hasterisk, if_neg hcolon]
  cases parse? rest <;> rfl

/-- What comes in front of a slash is taken. -/
theorem takeWhile_append_atSlash {name rest : List Char} (hname : '/' ∉ name)
    (hrest : AtSlash rest) : (name ++ rest).takeWhile (· != '/') = name := by
  have hall : ∀ c ∈ name, (c != '/') = true := fun c hc =>
    bne_iff_ne.mpr fun heq => hname (heq ▸ hc)
  rw [List.takeWhile_append_of_pos hall]
  cases rest with
  | nil => simp
  | cons c rest =>
    obtain rfl : c = '/' := hrest c rfl
    simp

/-- A parameter goes on up to the next slash, and its name has to be one. -/
theorem parse?_parameter {name rest : List Char} (hslash : '/' ∉ name) (hrest : AtSlash rest) :
    parse? (':' :: (name ++ rest)) =
      if IsName name then (parse? rest).map (.parameter name :: ·) else none := by
  have hbad : (name.isEmpty || name.contains ':' || name.contains '*') = true ↔ ¬ IsName name := by
    simp [IsName, Plain]
    tauto
  rw [parse?, if_neg (by decide), if_pos rfl]
  simp only [takeWhile_append_atSlash hslash hrest, List.drop_left, hbad, ite_not]
  split
  · cases parse? rest <;> rfl
  · rfl

/-- A text is a name, be it empty, and what follows from a slash on. -/
theorem exists_name_append (cs : List Char) :
    ∃ name rest, cs = name ++ rest ∧ '/' ∉ name ∧ AtSlash rest := by
  refine ⟨cs.takeWhile (· != '/'), cs.dropWhile (· != '/'),
    List.takeWhile_append_dropWhile.symm, fun hmem => ?_, fun c hc => ?_⟩
  · simpa using List.mem_takeWhile_imp hmem
  · have hhead := List.head?_dropWhile_not (· != '/') cs
    rw [hc] at hhead
    simpa using hhead

/-- A path that goes on at a slash is read as its two pieces are. -/
theorem parse?_append : ∀ {base rest : List Char}, AtSlash rest →
    parse? (base ++ rest) = (parse? base).bind fun p => (parse? rest).map (p ++ ·)
  | [], rest, _ => by
    simp [parse?_nil]
  | c :: base, rest, hrest => by
    by_cases hasterisk : c = '*'
    · rw [hasterisk, List.cons_append, parse?_asterisk, parse?_asterisk, Option.bind_none]
    by_cases hcolon : c = ':'
    · obtain ⟨name, tail, rfl, hslash, htail⟩ := exists_name_append base
      rw [hcolon, List.cons_append, List.append_assoc, parse?_parameter hslash htail,
        parse?_parameter hslash (htail.append hrest)]
      split
      · rw [parse?_append hrest]
        cases parse? tail <;> simp [Function.comp_def]
      · rfl
    · rw [List.cons_append, parse?_letter hasterisk hcolon, parse?_letter hasterisk hcolon,
        parse?_append hrest]
      cases parse? base <;> simp [Function.comp_def]
  termination_by base => base.length

/-! ## Parts of a path -/

/-- Plain text, or plain text with a parameter behind it. -/
def IsPart (part : List Char) : Prop :=
  Plain part ∨ ∃ before name, part = before ++ ':' :: name ∧ Plain before ∧ IsName name

/-- Every part of the path between slashes has at most one parameter, at its end and with a name,
and there is no asterisk. -/
def IsPath (path : List Char) : Prop := ∀ part ∈ Text.splitAll '/' path, IsPart part

theorem not_plain_colon (rest : List Char) : ¬ Plain (':' :: rest) := fun h =>
  h.1 List.mem_cons_self

theorem not_plain_asterisk (rest : List Char) : ¬ Plain ('*' :: rest) := fun h =>
  h.2 List.mem_cons_self

theorem not_isPart_asterisk (rest : List Char) : ¬ IsPart ('*' :: rest) := by
  rintro (hplain | ⟨before, name, heq, hbefore, -⟩)
  · exact not_plain_asterisk rest hplain
  · cases before with
    | nil => simp at heq
    | cons c before =>
      obtain rfl : '*' = c := (List.cons.inj heq).1
      exact not_plain_asterisk before hbefore

theorem isPart_colon_iff {rest : List Char} : IsPart (':' :: rest) ↔ IsName rest := by
  constructor
  · rintro (hplain | ⟨before, name, heq, hbefore, hname⟩)
    · exact absurd hplain (not_plain_colon rest)
    · cases before with
      | nil =>
        obtain rfl : rest = name := (List.cons.inj heq).2
        exact hname
      | cons c before =>
        obtain rfl : ':' = c := (List.cons.inj heq).1
        exact absurd hbefore (not_plain_colon before)
  · exact fun h => Or.inr ⟨[], rest, rfl, ⟨List.not_mem_nil, List.not_mem_nil⟩, h⟩

theorem plain_cons_iff {c : Char} (hasterisk : c ≠ '*') (hcolon : c ≠ ':') {rest : List Char} :
    Plain (c :: rest) ↔ Plain rest := by
  simp [Plain, hasterisk.symm, hcolon.symm]

/-- A letter in front of a part changes nothing. -/
theorem isPart_cons_iff {c : Char} (hasterisk : c ≠ '*') (hcolon : c ≠ ':') {rest : List Char} :
    IsPart (c :: rest) ↔ IsPart rest := by
  constructor
  · rintro (hplain | ⟨before, name, heq, hbefore, hname⟩)
    · exact Or.inl ((plain_cons_iff hasterisk hcolon).mp hplain)
    · cases before with
      | nil => exact absurd (List.cons.inj heq).1 hcolon
      | cons d before =>
        obtain ⟨rfl, rfl⟩ := List.cons.inj heq
        exact Or.inr ⟨before, name, rfl, (plain_cons_iff hasterisk hcolon).mp hbefore, hname⟩
  · rintro (hplain | ⟨before, name, rfl, hbefore, hname⟩)
    · exact Or.inl ((plain_cons_iff hasterisk hcolon).mpr hplain)
    · exact Or.inr ⟨c :: before, name, rfl, (plain_cons_iff hasterisk hcolon).mpr hbefore, hname⟩

/-- Between two slashes a text can be read exactly if it is a part. -/
theorem isSome_parse?_iff_isPart : ∀ {part : List Char}, '/' ∉ part →
    ((parse? part).isSome = true ↔ IsPart part)
  | [], _ => by
    rw [parse?_nil]
    exact iff_of_true rfl (Or.inl ⟨List.not_mem_nil, List.not_mem_nil⟩)
  | c :: part, hslash => by
    obtain ⟨-, hpart⟩ := List.ne_and_not_mem_of_not_mem_cons hslash
    by_cases hasterisk : c = '*'
    · rw [hasterisk, parse?_asterisk]
      exact iff_of_false (by decide) (not_isPart_asterisk part)
    by_cases hcolon : c = ':'
    · have hend : AtSlash [] := nofun
      have hread := parse?_parameter hpart hend
      rw [List.append_nil, parse?_nil] at hread
      rw [hcolon, hread, isPart_colon_iff]
      split
      · next hname => exact iff_of_true rfl hname
      · next hname => exact iff_of_false (by decide) hname
    · rw [parse?_letter hasterisk hcolon, Option.isSome_map, isSome_parse?_iff_isPart hpart,
        isPart_cons_iff hasterisk hcolon]

/-- The paths that are patterns. -/
theorem isSome_parse?_iff {path : List Char} : (parse? path).isSome = true ↔ IsPath path := by
  by_cases hslash : '/' ∈ path
  · obtain ⟨part, rest, heq, hpart⟩ := List.eq_append_cons_of_mem hslash
    have hlength : rest.length < path.length := by
      rw [heq, List.length_append, List.length_cons]
      omega
    have ih : (parse? rest).isSome = true ↔ IsPath rest := isSome_parse?_iff
    rw [heq, IsPath, Text.splitAll_append hpart, List.forall_mem_cons, ← IsPath, ← ih,
      ← isSome_parse?_iff_isPart hpart, parse?_append (atSlash_cons rest),
      parse?_letter (by decide) (by decide)]
    cases parse? part <;> cases parse? rest <;> simp
  · rw [IsPath, Text.splitAll_of_not_mem hslash, List.forall_mem_singleton]
    exact isSome_parse?_iff_isPart hslash
  termination_by path.length

/-- No pattern can be read from a path with an asterisk. -/
theorem not_mem_asterisk_of_parse? : ∀ {path : List Char} {p : PathPattern},
    parse? path = some p → '*' ∉ path
  | [], _, _ => List.not_mem_nil
  | c :: path, p, h => by
    by_cases hasterisk : c = '*'
    · rw [hasterisk, parse?_asterisk] at h
      contradiction
    refine List.not_mem_cons_of_ne_of_not_mem (Ne.symm hasterisk) ?_
    by_cases hcolon : c = ':'
    · obtain ⟨name, rest, rfl, hslash, hrest⟩ := exists_name_append path
      rw [hcolon, parse?_parameter hslash hrest] at h
      split at h
      · next hname =>
        obtain ⟨q, hq, -⟩ := Option.map_eq_some_iff.mp h
        rw [List.mem_append, not_or]
        exact ⟨hname.2.2, not_mem_asterisk_of_parse? hq⟩
      · contradiction
    · rw [parse?_letter hasterisk hcolon] at h
      obtain ⟨q, hq, -⟩ := Option.map_eq_some_iff.mp h
      exact not_mem_asterisk_of_parse? hq
  termination_by path => path.length

theorem IsPath.not_mem_asterisk {path : List Char} (h : IsPath path) : '*' ∉ path := by
  obtain ⟨p, hp⟩ := Option.isSome_iff_exists.mp (isSome_parse?_iff.mpr h)
  exact not_mem_asterisk_of_parse? hp

/-! ## Shapes of paths -/

/-- The shape of a path, if it is a pattern. -/
def shape? (path : List Char) : Option (List (Option Char)) := (parse? path).map shape

theorem exists_shape?_iff {path : List Char} : (∃ s, shape? path = some s) ↔ IsPath path := by
  rw [← isSome_parse?_iff, ← Option.isSome_iff_exists, shape?, Option.isSome_map]

/-- A path is read part by part, so that shapes are put together as paths are. -/
theorem shape?_append {base rest : List Char} (hrest : AtSlash rest) :
    shape? (base ++ rest) = (shape? base).bind fun s => (shape? rest).map (s ++ ·) := by
  rw [shape?, shape?, shape?, parse?_append hrest]
  cases parse? base <;> cases parse? rest <;> simp [shape]

/-- A pattern of letters alone is their text. -/
theorem eq_of_shape? : ∀ {path cs : List Char}, shape? path = some (cs.map some) → path = cs
  | [], cs, h => by
    have hnil : [] = cs.map some := by simpa [shape?, parse?_nil, shape] using h
    exact (List.map_eq_nil_iff.mp hnil.symm).symm
  | c :: path, cs, h => by
    obtain ⟨p, hread, hshape⟩ := Option.map_eq_some_iff.mp h
    by_cases hasterisk : c = '*'
    · rw [hasterisk, parse?_asterisk] at hread
      contradiction
    by_cases hcolon : c = ':'
    · -- A parameter is no letter.
      obtain ⟨name, rest, rfl, hslash, hrest⟩ := exists_name_append path
      rw [hcolon, parse?_parameter hslash hrest] at hread
      split at hread
      · obtain ⟨q, -, rfl⟩ := Option.map_eq_some_iff.mp hread
        cases cs <;> simp [shape, PathPiece.shape] at hshape
      · contradiction
    · rw [parse?_letter hasterisk hcolon] at hread
      obtain ⟨q, hq, rfl⟩ := Option.map_eq_some_iff.mp hread
      cases cs with
      | nil => simp [shape] at hshape
      | cons d cs =>
        obtain ⟨hc, hcs⟩ := List.cons.inj hshape
        have hpath : shape? path = some (cs.map some) := by
          rw [shape?, hq, Option.map_some]
          exact congrArg some hcs
        rw [eq_of_shape? hpath, Option.some.inj hc]

end PathPattern

end AccountServer
