import AccountServer.Json.Printer
import AccountServer.Json.Reader
import AccountServer.Proofs.Text.Uuid

/-!
# Scalars read back

A string and a whole number read back from the text that is written for them, whatever stands
behind it. A string ends at its closing quote. A number ends at the first character that cannot
belong to it, so that what follows must not begin with such a one (`Apart`).
-/

namespace AccountServer.Json

open Text

/-! ## Strings -/

/-- One character, as it is written inside of a string. -/
theorem stringBody_escape (c : Char) (acc rest : List Char) :
    stringBody acc none true (escape c ++ rest) = stringBody (c :: acc) none true rest := by
  unfold escape
  split
  · rfl
  · rfl
  · rfl
  · rfl
  · rfl
  · rfl
  · rfl
  · -- What has no short form is a control character, which is written by its number, or stands
    -- for itself.
    next hquote hslash _ _ _ _ _ =>
    split
    · next hlow =>
      have hnumber : hexNumber? (hexDigits 4 c.toNat) = some c.toNat := by
        rw [hexNumber?_hexDigits, Nat.mod_eq_of_lt (by omega)]
      obtain ⟨a, b, d, e, hdigits⟩ : ∃ a b d e, hexDigits 4 c.toNat = [a, b, d, e] :=
        ⟨_, _, _, _, rfl⟩
      rw [hdigits] at hnumber
      have hhigh : isHighSurrogate c.toNat = false := by simp [isHighSurrogate]; omega
      have hlower : isLowSurrogate c.toNat = false := by simp [isLowSurrogate]; omega
      rw [hdigits]
      show stringBody acc none true ('\\' :: 'u' :: a :: b :: d :: e :: rest) = _
      rw [stringBody, hnumber]
      simp [hhigh, hlower, Char.ofNat_toNat]
    · next hhigh =>
      show stringBody acc none true (c :: rest) = _
      rw [stringBody.eq_5 _ _ _ _ _ hquote (fun _ _ _ _ _ h _ => hslash h)
        fun _ _ h _ => hslash h]
      have hplain : (decide (c.toNat < 0x20) || c == '\\') = false := by
        simpa [hhigh] using hslash
      rw [hplain]
      rfl

theorem stringBody_flatMap_escape (cs acc rest : List Char) :
    stringBody acc none true (cs.flatMap escape ++ '"' :: rest) =
      some (some (String.ofList (acc.reverse ++ cs)), rest) := by
  induction cs generalizing acc with
  | nil => simp [stringBody]
  | cons c cs ih => rw [List.flatMap_cons, List.append_assoc, stringBody_escape, ih]; simp

/-- A string behind its opening quote. -/
theorem stringBody_quote (s : String) (rest : List Char) :
    stringBody [] none true (s.toList.flatMap escape ++ '"' :: rest) = some (some s, rest) := by
  rw [stringBody_flatMap_escape]
  simp

theorem quote_append (s : String) (rest : List Char) :
    quote s ++ rest = '"' :: (s.toList.flatMap escape ++ '"' :: rest) := by
  simp [quote]

/-- A text reads back from what stands between the quotes. -/
theorem readString_quote (s : String) (rest : List Char) :
    readString (s.toList.flatMap escape ++ '"' :: rest) = (.string s, some rest) := by
  rw [readString, stringBody_quote]

/-! ## Whole numbers -/

/-- What may stand behind a number without being taken for a part of it. -/
def Apart (rest : List Char) : Prop :=
  ∀ c ∈ rest.head?, c.isDigit = false ∧ c ≠ '.' ∧ c ≠ 'e' ∧ c ≠ 'E'

theorem digitsValue_toDigits (n : Nat) : digitsValue (Nat.toDigits 10 n) = n := by
  calc digitsValue (Nat.toDigits 10 n) = Nat.ofDigitChars 10 (Nat.toDigits 10 n) 0 := by
        rw [Nat.ofDigitChars_eq_foldl, digitsValue]
        congr 1
        funext m c
        rw [Nat.mul_comm]
        rfl
    _ = n := Nat.ofDigitChars_ten_toDigits

/-- A number other than zero does not begin with a zero. -/
theorem head?_toDigits_ne {n : Nat} (h : 0 < n) : (Nat.toDigits 10 n).head? ≠ some '0' := by
  have hdigit : ∀ d < 10, 0 < d → d.digitChar ≠ '0' := by decide
  induction n using Nat.strongRecOn with
  | ind n ih =>
    rw [Nat.toDigits_eq_if (by decide)]
    split
    · next hn => simpa using hdigit n hn h
    · next hn =>
      have hne : Nat.toDigits 10 (n / 10) ≠ [] := Nat.toDigits_ne_nil
      rw [List.head?_append, Option.or_of_isSome (List.isSome_head?.mpr hne)]
      exact ih (n / 10) (by omega) (by omega)

theorem toDigits_isDigit (n : Nat) : ∀ c ∈ Nat.toDigits 10 n, c.isDigit = true := fun _ h =>
  Nat.isDigit_of_mem_toDigits (by decide) (by decide) h

/-- The digits of a number are taken as its whole part, and nothing else is. -/
theorem takeWhile_toDigits (n : Nat) {rest : List Char} (h : Apart rest) :
    (Nat.toDigits 10 n ++ rest).takeWhile Char.isDigit = Nat.toDigits 10 n ∧
      (Nat.toDigits 10 n ++ rest).dropWhile Char.isDigit = rest := by
  rw [List.takeWhile_append_of_pos (toDigits_isDigit n),
    List.dropWhile_append_of_pos (toDigits_isDigit n)]
  cases rest with
  | nil => simp
  | cons c rest =>
    have hc := (h c rfl).1
    simp [hc]

theorem leadingZero_toDigits (n : Nat) :
    ((Nat.toDigits 10 n).isEmpty || ((Nat.toDigits 10 n).head? == some '0' &&
      decide (1 < (Nat.toDigits 10 n).length))) = false := by
  by_cases hn : 0 < n
  · have hne : (Nat.toDigits 10 n).isEmpty = false := by simp
    have hhead : ((Nat.toDigits 10 n).head? == some '0') = false := by
      simpa using head?_toDigits_ne hn
    rw [hne, hhead]
    rfl
  · obtain rfl : n = 0 := by omega
    rfl

/-- A numeral begins with a digit or with a minus sign. -/
theorem isDigit_of_toDigits_append {n : Nat} {rest tail : List Char} {c : Char}
    (h : Nat.toDigits 10 n ++ rest = c :: tail) : c.isDigit = true := by
  cases hd : Nat.toDigits 10 n with
  | nil => exact absurd hd Nat.toDigits_ne_nil
  | cons d ds =>
    rw [hd] at h
    obtain rfl : d = c := (List.cons.inj h).1
    exact toDigits_isDigit n d (hd ▸ List.mem_cons_self)

theorem numeral?_toDigits (n : Nat) {rest : List Char} (h : Apart rest) :
    numeral? (Nat.toDigits 10 n ++ rest) =
      some (⟨false, Nat.toDigits 10 n, none, none⟩, rest) := by
  obtain ⟨htake, hdrop⟩ := takeWhile_toDigits n h
  unfold numeral?
  split
  rename_i negative cs hcs
  split at hcs
  · next heq => exact absurd (isDigit_of_toDigits_append heq) (by decide)
  · cases hcs
    simp only [htake, hdrop, leadingZero_toDigits]
    cases rest with
    | nil => rfl
    | cons c rest =>
      obtain ⟨-, hpoint, he, hE⟩ := h c rfl
      simp [hpoint, he, hE]

theorem numeral?_neg_toDigits (n : Nat) {rest : List Char} (h : Apart rest) :
    numeral? ('-' :: (Nat.toDigits 10 n ++ rest)) =
      some (⟨true, Nat.toDigits 10 n, none, none⟩, rest) := by
  obtain ⟨htake, hdrop⟩ := takeWhile_toDigits n h
  unfold numeral?
  simp only [htake, hdrop, leadingZero_toDigits]
  cases rest with
  | nil => rfl
  | cons c rest =>
    obtain ⟨-, hpoint, he, hE⟩ := h c rfl
    simp [hpoint, he, hE]

/-- Whole numbers that keep their form: those of 64 bits, with a sign or without. -/
def IsWhole (n : Int) : Prop := Word.minInt64 ≤ n ∧ n ≤ Word.max64

theorem toList_toString_int (n : Int) : (toString n).toList =
    if 0 ≤ n then Nat.toDigits 10 n.toNat else '-' :: Nat.toDigits 10 (-n).toNat := by
  rw [Int.toString_eq_repr, Int.repr_eq_if]
  split
  · simp [Nat.repr_eq_ofList_toDigits]
  · simp [Nat.repr_eq_ofList_toDigits]

theorem toDigits_injective {m n : Nat} (h : Nat.toDigits 10 m = Nat.toDigits 10 n) : m = n := by
  rw [← digitsValue_toDigits m, h, digitsValue_toDigits]

theorem toDigits_ne_minus (m : Nat) (cs : List Char) : Nat.toDigits 10 m ≠ '-' :: cs := fun h =>
  absurd (toDigits_isDigit m '-' (h ▸ List.mem_cons_self)) (by decide)

/-- Different numbers are written differently. -/
theorem toString_int_injective {m n : Int} (h : toString m = toString n) : m = n := by
  have hlist := congrArg String.toList h
  rw [toList_toString_int, toList_toString_int] at hlist
  split at hlist <;> split at hlist
  · have hnat := toDigits_injective hlist
    omega
  · exact absurd hlist (toDigits_ne_minus _ _)
  · exact absurd hlist.symm (toDigits_ne_minus _ _)
  · have hnat := toDigits_injective (List.cons.inj hlist).2
    omega

/-- The text of a number begins with a digit or a minus sign. -/
theorem exists_toList_toString_int (n : Int) :
    ∃ c cs, (toString n).toList = c :: cs ∧ (c.isDigit = true ∨ c = '-') := by
  rw [toList_toString_int]
  split
  · cases hd : Nat.toDigits 10 n.toNat with
    | nil => exact absurd hd Nat.toDigits_ne_nil
    | cons d ds => exact ⟨d, ds, rfl, Or.inl (toDigits_isDigit _ d (hd ▸ List.mem_cons_self))⟩
  · exact ⟨_, _, rfl, Or.inr rfl⟩

/-- A whole number reads back if it is not too large and no more digits follow. -/
theorem readScalar_int {n : Int} (hn : IsWhole n) {rest : List Char} (h : Apart rest) :
    readScalar ((toString n).toList ++ rest) = (.int n, some rest) := by
  rw [toList_toString_int]
  by_cases hpos : 0 ≤ n
  · obtain ⟨m, rfl⟩ := Int.eq_ofNat_of_zero_le hpos
    have hvalue : Numeral.value ⟨false, Nat.toDigits 10 m, none, none⟩ = .int m := by
      have hm : m ≤ maxSignificand := by exact_mod_cast hn.2
      simp [Numeral.value, digitsValue_toDigits, hm]
    rw [if_pos hpos, Int.toNat_natCast]
    unfold readScalar
    split
    · next heq => exact absurd (isDigit_of_toDigits_append heq) (by decide)
    · next heq => exact absurd (isDigit_of_toDigits_append heq) (by decide)
    · next heq => exact absurd (isDigit_of_toDigits_append heq) (by decide)
    · next heq => exact absurd (isDigit_of_toDigits_append heq) (by decide)
    · rw [numeral?_toDigits m h]
      exact congrArg (·, some rest) hvalue
  · obtain ⟨m, hm⟩ := Int.eq_ofNat_of_zero_le (a := -n) (by omega)
    have hvalue : Numeral.value ⟨true, Nat.toDigits 10 m, none, none⟩ = .int n := by
      have hneg : -(m : Int) = n := by omega
      have hm' : 0 < m := by omega
      simp [Numeral.value, digitsValue_toDigits, hm', hneg, hn.1]
    rw [if_neg hpos, hm, Int.toNat_natCast]
    show readScalar ('-' :: (Nat.toDigits 10 m ++ rest)) = _
    unfold readScalar
    rw [numeral?_neg_toDigits m h]
    exact congrArg (·, some rest) hvalue

end AccountServer.Json
