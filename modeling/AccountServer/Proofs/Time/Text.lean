import Mathlib.Data.Nat.Digits.Defs
import AccountServer.Proofs.Json.Scalar
import AccountServer.Proofs.Text.Blank
import AccountServer.Proofs.Time.Calendar
import AccountServer.Time.Reader

/-!
# Instants read back

An instant reads back from its text (`parse?_toText`). Every number is written with as many digits
as the reader takes for it, or else a character stands behind it that is no digit. A leap second
reads back too, as long as it is the last of a minute (`Civil`); no text stands for any other
(`parse?_toText_iff`).
-/

namespace AccountServer.Instant

open Text
open Json (digitsValue digitsValue_toDigits toDigits_isDigit)

/-- An instant that there is: its year is in range, and only the last second of a minute is followed
by a leap second. -/
structure Civil (t : Instant) : Prop where
  inRange : secondsInRange t.seconds = true
  leap : 1000000000 ≤ t.nanos → t.seconds % 60 = 59

instance (t : Instant) : Decidable t.Civil :=
  decidable_of_iff
    (secondsInRange t.seconds = true ∧ (1000000000 ≤ t.nanos → t.seconds % 60 = 59))
    ⟨fun h => ⟨h.1, h.2⟩, fun h => ⟨h.inRange, h.leap⟩⟩

/-! ## Numbers -/

theorem padded_eq (width n : Nat) :
    padded width n =
      List.replicate (width - (Nat.toDigits 10 n).length) '0' ++ Nat.toDigits 10 n := by
  have hlist : (toString n).toList = Nat.toDigits 10 n := by
    simp [Nat.toString_eq_repr, Nat.repr_eq_ofList_toDigits]
  rw [padded, hlist]

theorem isDigit_of_mem_padded {width n : Nat} {c : Char} (h : c ∈ padded width n) :
    c.isDigit = true := by
  rw [padded_eq, List.mem_append, List.mem_replicate] at h
  rcases h with ⟨-, rfl⟩ | h
  · rfl
  · exact toDigits_isDigit n c h

theorem length_padded {width n : Nat} (hpos : 0 < width) (h : n < 10 ^ width) :
    (padded width n).length = width := by
  have hlength := Nat.toDigits_length 10 n width hpos h
  rw [padded_eq, List.length_append, List.length_replicate]
  omega

theorem padded_ne_nil (width n : Nat) : padded width n ≠ [] := by
  rw [padded_eq]
  exact List.append_ne_nil_of_right_ne_nil _ Nat.toDigits_ne_nil

/-- Zeros in front do not count. -/
theorem digitsValue_padded (width n : Nat) : digitsValue (padded width n) = n := by
  have hzeros (k : Nat) (cs : List Char) :
      digitsValue (List.replicate k '0' ++ cs) = digitsValue cs := by
    induction k with
    | zero => rfl
    | succ k ih => exact ih
  rw [padded_eq, hzeros, digitsValue_toDigits]

theorem toNat_of_isDigit {c : Char} (h : c.isDigit = true) : 48 ≤ c.toNat ∧ c.toNat ≤ 57 := by
  simpa [Char.isDigit, UInt32.le_iff_toNat_le] using h

theorem isBlank_of_isDigit {c : Char} (h : c.isDigit = true) : isBlank c = false := by
  have hrange := toNat_of_isDigit h
  simp only [isBlank, Bool.or_eq_false_iff, Bool.and_eq_false_iff, decide_eq_false_iff_not,
    beq_eq_false_iff_ne]
  omega

theorem trimStart_padded (width n : Nat) (rest : List Char) :
    trimStart (padded width n ++ rest) = padded width n ++ rest := by
  cases hcs : padded width n with
  | nil => exact absurd hcs (padded_ne_nil width n)
  | cons c cs =>
    exact trimStart_cons (isBlank_of_isDigit (isDigit_of_mem_padded (hcs ▸ List.mem_cons_self))) _

theorem takeWhile_padded (width n : Nat) (rest : List Char) :
    (padded width n ++ rest).takeWhile Char.isDigit =
      padded width n ++ rest.takeWhile Char.isDigit :=
  List.takeWhile_append_of_pos fun _ => isDigit_of_mem_padded

/-- A number of the full width reads back, whatever stands behind it. -/
theorem readNumber_padded {width n : Nat} (hpos : 0 < width) (h : n < 10 ^ width)
    (rest : List Char) : readNumber (some width) (padded width n ++ rest) = some (n, rest) := by
  have hlength := length_padded hpos h
  have htake : (padded width n ++ rest.takeWhile Char.isDigit).take width = padded width n :=
    List.take_left' hlength
  have hvalue := digitsValue_padded width n
  unfold digitsValue at hvalue
  unfold readNumber
  rw [trimStart_padded]
  simp only [takeWhile_padded, htake]
  rw [if_neg (by simp [padded_ne_nil]), hvalue, List.drop_left' rfl]

/-- Digits behind a sign read back up to the first character that is none. -/
theorem readYear_bare (n : Nat) (sign : Nat → Int) {c : Char} (hc : c.isDigit = false)
    (rest : List Char) :
    readYear.bare (padded 4 n ++ c :: rest) sign = some (sign n, c :: rest) := by
  have hvalue := digitsValue_padded 4 n
  unfold digitsValue at hvalue
  have hrun : (padded 4 n ++ c :: rest).takeWhile Char.isDigit = padded 4 n := by
    rw [takeWhile_padded, List.takeWhile_cons_of_neg (by simp [hc]), List.append_nil]
  unfold readYear.bare
  simp only [hrun]
  rw [if_neg (by simp [padded_ne_nil]), hvalue, List.drop_left' rfl]

theorem readYear_of_sign {c : Char} {cs : List Char} (hc : c = '-' ∨ c = '+') :
    readYear (c :: cs) = readYear.bare cs fun n => if c = '-' then -(n : Int) else n := by
  rcases hc with rfl | rfl <;> rfl

theorem readYear_of_digit {c : Char} (hc : c.isDigit = true) (cs : List Char) :
    readYear (c :: cs) =
      (readNumber (some 4) (c :: cs)).map fun (n, rest) => ((n : Int), rest) := by
  unfold readYear
  rw [trimStart_cons (isBlank_of_isDigit hc)]
  split
  · next heq =>
    obtain rfl := (List.cons.inj heq).1
    exact absurd hc (by decide)
  · next heq =>
    obtain rfl := (List.cons.inj heq).1
    exact absurd hc (by decide)
  · rfl

/-- The year reads back up to the hyphen behind it. -/
theorem readYear_yearChars (year : Int) (rest : List Char) :
    readYear (yearChars year ++ '-' :: rest) = some (year, '-' :: rest) := by
  unfold yearChars
  split
  · next h =>
    simp only [Bool.and_eq_true, decide_eq_true_eq] at h
    have hnumber : readNumber (some 4) (padded 4 year.toNat ++ '-' :: rest) =
        some (year.toNat, '-' :: rest) := readNumber_padded (by decide) (by omega) _
    cases hcs : padded 4 year.toNat with
    | nil => exact absurd hcs (padded_ne_nil 4 _)
    | cons c cs =>
      have hc : c.isDigit = true := isDigit_of_mem_padded (hcs ▸ List.mem_cons_self)
      rw [hcs, List.cons_append] at hnumber
      rw [List.cons_append, readYear_of_digit hc, hnumber, Option.map_some]
      simp only [Int.toNat_of_nonneg h.1]
  · next h =>
    simp only [Bool.and_eq_true, decide_eq_true_eq] at h
    by_cases hneg : year < 0
    · rw [if_pos hneg, List.cons_append, readYear_of_sign (Or.inl rfl), readYear_bare _ _ rfl]
      simp only [if_true]
      congr 2
      omega
    · rw [if_neg hneg, List.cons_append, readYear_of_sign (Or.inr rfl), readYear_bare _ _ rfl]
      simp only [Char.reduceEq, if_false]
      congr 2
      omega

/-! ## Fractions -/

theorem readFraction_padded {width n : Nat} (hpos : 0 < width) (hwidth : width ≤ 9)
    (h : n < 10 ^ width) {c : Char} (hc : c.isDigit = false) (rest : List Char) :
    readFraction ('.' :: padded width n ++ c :: rest) =
      some (n * 10 ^ (9 - width), c :: rest) := by
  have hlength := length_padded hpos h
  have hvalue := digitsValue_padded width n
  unfold digitsValue at hvalue
  have hrun : (padded width n ++ c :: rest).takeWhile Char.isDigit = padded width n := by
    rw [takeWhile_padded, List.takeWhile_cons_of_neg (by simp [hc]), List.append_nil]
  have htake : (padded width n).take 9 = padded width n :=
    List.take_of_length_le (by omega)
  rw [List.cons_append]
  unfold readFraction
  simp only [hrun, htake]
  rw [if_neg (by simp [padded_ne_nil]), hvalue, hlength, List.drop_left' hlength]
  rfl

/-- Leaving out zeros in groups of three loses nothing. -/
theorem readFraction_fractionChars {nanos : Nat} (h : nanos < 1000000000) {c : Char}
    (hdigit : c.isDigit = false) (hpoint : c ≠ '.') (rest : List Char) :
    readFraction (fractionChars nanos ++ c :: rest) = some (nanos, c :: rest) := by
  unfold fractionChars
  split
  · next hzero =>
    subst hzero
    unfold readFraction
    split
    · next heq => exact absurd (List.cons.inj heq).1 hpoint
    · rfl
  · split
    · rw [readFraction_padded (by decide) (by decide) (by omega) hdigit]
      congr 2
      omega
    · split
      · rw [readFraction_padded (by decide) (by decide) (by omega) hdigit]
        congr 2
        omega
      · rw [readFraction_padded (by decide) (by decide) (by omega) hdigit]
        congr 2
        omega

/-! ## Instants -/

theorem expect_cons {c : Char} (h : isBlank c = false) (rest : List Char) :
    expect c (c :: rest) = some rest := by
  rw [expect, trimStart_cons h]
  simp

/-- How the parts of a text make an instant. -/
theorem parse?_of_parts {text : String} {year : Int} {month day hour minute : Nat}
    (second fraction : Nat)
    (htext : text.toList = yearChars year ++ '-' :: (padded 2 month ++ '-' ::
      (padded 2 day ++ 'T' :: (padded 2 hour ++ ':' :: (padded 2 minute ++ ':' ::
        (padded 2 second ++ (fractionChars fraction ++ ['Z'])))))))
    (hyear : minYear ≤ year ∧ year ≤ maxYear) (hdate : Calendar.isDate year month day = true)
    (hhour : hour < 24) (hminute : minute < 60) (hsecond : second ≤ 60)
    (hfraction : fraction < 1000000000) {t : Instant}
    (hseconds : t.seconds = Calendar.daysOfDate year month day * 86400 +
      (hour * 3600 + minute * 60 + if second = 60 then 59 else second))
    (hnanos : t.nanos = fraction + if second = 60 then 1000000000 else 0)
    (hrange : secondsInRange t.seconds = true) : parse? text = some t := by
  obtain ⟨-, hmonth, -, hday⟩ := Calendar.bounds_of_isDate hdate
  have htwo {n : Nat} (h : n < 100) (rest : List Char) :
      readNumber (some 2) (padded 2 n ++ rest) = some (n, rest) :=
    readNumber_padded (by decide) h rest
  have hhyphen (rest : List Char) : expect '-' ('-' :: rest) = some rest :=
    expect_cons (by decide) rest
  have hcolon (rest : List Char) : expect ':' (':' :: rest) = some rest :=
    expect_cons (by decide) rest
  have hzone : readZone (trimStart ['Z']) = some (0, []) := by decide
  have hdate' : (decide (minYear ≤ year) && decide (year ≤ maxYear) &&
      Calendar.isDate year month day) = true := by
    simp [hyear, hdate]
  have hclock : (decide (hour < 24) && decide (minute < 60) && decide (second ≤ 60)) = true := by
    simp [hhour, hminute, hsecond]
  have hutc : t.seconds = Calendar.daysOfDate year month day * 86400 +
      (hour * 3600 + minute * 60 + (if second = 60 then 59 else second : Nat)) - 0 := by
    omega
  obtain ⟨seconds, nanos, hlt⟩ := t
  simp only at hutc hnanos hrange
  subst hutc hnanos
  unfold parse?
  rw [htext]
  -- From here on the reader takes one part of the text after the other.
  refine Option.bind_eq_some_iff.mpr ⟨_, readYear_yearChars year _, ?_⟩
  refine Option.bind_eq_some_iff.mpr ⟨_, hhyphen _, ?_⟩
  refine Option.bind_eq_some_iff.mpr ⟨_, htwo (by omega) _, ?_⟩
  refine Option.bind_eq_some_iff.mpr ⟨_, hhyphen _, ?_⟩
  refine Option.bind_eq_some_iff.mpr ⟨_, htwo (by omega) _, ?_⟩
  dsimp only
  rw [if_pos (by decide), Option.bind_eq_bind, Option.bind_some]
  refine Option.bind_eq_some_iff.mpr ⟨_, htwo (by omega) _, ?_⟩
  refine Option.bind_eq_some_iff.mpr ⟨_, hcolon _, ?_⟩
  refine Option.bind_eq_some_iff.mpr ⟨_, htwo (by omega) _, ?_⟩
  refine Option.bind_eq_some_iff.mpr ⟨_, hcolon _, ?_⟩
  refine Option.bind_eq_some_iff.mpr ⟨_, htwo (by omega) _, ?_⟩
  refine Option.bind_eq_some_iff.mpr
    ⟨_, readFraction_fractionChars hfraction (by decide) (by decide) _, ?_⟩
  refine Option.bind_eq_some_iff.mpr ⟨_, hzone, ?_⟩
  dsimp only
  rw [if_neg (by decide), if_neg (by simp [hdate']), if_neg (by simp [hclock]), dif_pos hlt,
    if_pos hrange]

theorem parse?_toText {t : Instant} (h : t.Civil) : parse? t.toText = some t := by
  obtain ⟨hfirst, hlast⟩ : Calendar.daysOfDate minYear 1 1 * 86400 ≤ t.seconds ∧
      t.seconds < Calendar.daysOfDate (maxYear + 1) 1 1 * 86400 := by
    simpa [secondsInRange] using h.inRange
  have hleap := h.leap
  have hnanos := t.nanos_lt
  have hdays : t.seconds.fdiv 86400 = t.seconds / 86400 := by
    rw [Int.fdiv_eq_ediv_of_nonneg _ (by decide)]
  have hdate := Calendar.daysOfDate_dateOfDays (t.seconds / 86400)
  obtain ⟨hlow, hhigh⟩ : minYear ≤ (Calendar.dateOfDays (t.seconds / 86400)).1 ∧
      (Calendar.dateOfDays (t.seconds / 86400)).1 ≤ maxYear :=
    Calendar.year_dateOfDays (by omega) (by omega)
  refine parse?_of_parts
    ((t.seconds - t.seconds / 86400 * 86400).toNat % 60 + if 1000000000 ≤ t.nanos then 1 else 0)
    (if 1000000000 ≤ t.nanos then t.nanos - 1000000000 else t.nanos)
    (by rw [toText, String.toList_ofList, charsWith, hdays]) ⟨hlow, hhigh⟩
    (Calendar.isDate_dateOfDays _) ?hour ?minute ?second ?fraction ?seconds ?nanos h.inRange
  case hour => omega
  case minute => omega
  case second => split <;> omega
  case fraction => split <;> omega
  case seconds =>
    rw [hdate]
    split <;> split <;> omega
  case nanos =>
    split <;> split <;> omega

/-! ## What is read -/

/-- The number of digits bounds what they stand for. -/
theorem foldl_digits_lt : ∀ {ds : List Char}, (∀ c ∈ ds, c.isDigit = true) → ∀ n : Nat,
    ds.foldl (fun n d => n * 10 + (d.toNat - 0x30)) n < (n + 1) * 10 ^ ds.length
  | [], _, n => by simp
  | d :: ds, h, n => by
    obtain ⟨hd, hds⟩ := List.forall_mem_cons.mp h
    have ih := foldl_digits_lt hds (n * 10 + (d.toNat - 0x30))
    have hdigit := toNat_of_isDigit hd
    have hle : n * 10 + (d.toNat - 0x30) + 1 ≤ (n + 1) * 10 := by omega
    calc (d :: ds).foldl (fun n d => n * 10 + (d.toNat - 0x30)) n
        < (n * 10 + (d.toNat - 0x30) + 1) * 10 ^ ds.length := ih
      _ ≤ (n + 1) * 10 * 10 ^ ds.length := Nat.mul_le_mul_right _ hle
      _ = (n + 1) * 10 ^ (d :: ds).length := by rw [List.length_cons, Nat.pow_succ']; ring

theorem readFraction_lt {cs rest : List Char} {n : Nat} (h : readFraction cs = some (n, rest)) :
    n < 1000000000 := by
  unfold readFraction at h
  split at h
  · next digits =>
    dsimp only at h
    split at h
    · cases h
    · obtain ⟨rfl, -⟩ := Prod.mk.inj (Option.some.inj h)
      generalize hkept : (digits.takeWhile Char.isDigit).take 9 = kept
      have hdigits : ∀ c ∈ kept, c.isDigit = true := fun c hc =>
        List.all_eq_true.mp List.all_takeWhile c (List.mem_of_mem_take (hkept ▸ hc))
      have hlength : kept.length ≤ 9 := hkept ▸ List.length_take_le 9 _
      calc kept.foldl (fun n d => n * 10 + (d.toNat - 0x30)) 0 * 10 ^ (9 - kept.length)
          < (0 + 1) * 10 ^ kept.length * 10 ^ (9 - kept.length) :=
            Nat.mul_lt_mul_of_pos_right (foldl_digits_lt hdigits 0) (Nat.pow_pos (by decide))
        _ = 10 ^ 9 := by rw [Nat.zero_add, Nat.one_mul, ← Nat.pow_add, Nat.add_sub_cancel' hlength]
  · obtain ⟨rfl, -⟩ := Prod.mk.inj (Option.some.inj h)
    decide

/-- Zones are apart by whole minutes. -/
theorem readZone_whole {cs rest : List Char} {offset : Int}
    (h : readZone cs = some (offset, rest)) : offset % 60 = 0 := by
  unfold readZone at h
  split at h
  · cases h; rfl
  · cases h; rfl
  · split at h
    · obtain ⟨⟨hours, cs⟩, -, h⟩ := Option.bind_eq_some_iff.mp h
      obtain ⟨⟨minutes, cs⟩, -, h⟩ := Option.bind_eq_some_iff.mp h
      obtain ⟨-, h⟩ := Option.ite_none_right_eq_some.mp h
      obtain ⟨rfl, -⟩ := Prod.mk.inj (Option.some.inj h)
      split <;> omega
    · split at h
      · cases h; rfl
      · cases h
  · cases h

/-- What is read past a guard has passed it. -/
theorem eq_some_of_guard {α β : Type} {c : Prop} [Decidable c] {f : α → Option β} {rest : Option β}
    {b : β} (h : (if c then none >>= f else rest) = some b) : ¬ c ∧ rest = some b := by
  split at h
  · cases h
  · next hc => exact ⟨hc, h⟩

/-- Only times that there are can be read. -/
theorem civil_of_parse? {text : String} {t : Instant} (h : parse? text = some t) : t.Civil := by
  unfold parse? at h
  obtain ⟨⟨year, cs⟩, -, h⟩ := Option.bind_eq_some_iff.mp h
  obtain ⟨cs, -, h⟩ := Option.bind_eq_some_iff.mp h
  obtain ⟨⟨month, cs⟩, -, h⟩ := Option.bind_eq_some_iff.mp h
  obtain ⟨cs, -, h⟩ := Option.bind_eq_some_iff.mp h
  obtain ⟨⟨day, cs⟩, -, h⟩ := Option.bind_eq_some_iff.mp h
  obtain _ | ⟨c, cs⟩ := cs
  · cases h
  change (if (c == 'T' || c == 't' || c == ' ') = true then _ else _) = _ at h
  split at h
  · obtain ⟨cs, -, h⟩ := Option.bind_eq_some_iff.mp h
    obtain ⟨⟨hour, cs⟩, -, h⟩ := Option.bind_eq_some_iff.mp h
    obtain ⟨cs, -, h⟩ := Option.bind_eq_some_iff.mp h
    obtain ⟨⟨minute, cs⟩, -, h⟩ := Option.bind_eq_some_iff.mp h
    obtain ⟨cs, -, h⟩ := Option.bind_eq_some_iff.mp h
    obtain ⟨⟨second, cs⟩, -, h⟩ := Option.bind_eq_some_iff.mp h
    obtain ⟨⟨fraction, cs⟩, hfraction, h⟩ := Option.bind_eq_some_iff.mp h
    obtain ⟨⟨offset, cs⟩, hzone, h⟩ := Option.bind_eq_some_iff.mp h
    have hoffset := readZone_whole hzone
    have hlt := readFraction_lt hfraction
    obtain ⟨-, h⟩ := eq_some_of_guard h
    obtain ⟨-, h⟩ := eq_some_of_guard h
    obtain ⟨-, h⟩ := eq_some_of_guard h
    obtain ⟨hnanos, h⟩ := Option.dite_none_right_eq_some.mp h
    obtain ⟨hrange, h⟩ := Option.ite_none_right_eq_some.mp h
    obtain rfl := Option.some.inj h
    refine ⟨hrange, fun hleap => ?_⟩
    -- A leap second counts as the second 59, and dates, hours, minutes and zones are whole minutes.
    dsimp only at hleap ⊢
    split at hleap
    · next hsecond =>
      rw [if_pos hsecond]
      omega
    · omega
  · cases h

/-- The times that there are, and no others, read back from their texts. -/
theorem parse?_toText_iff (t : Instant) : parse? t.toText = some t ↔ t.Civil :=
  ⟨civil_of_parse?, parse?_toText⟩

end AccountServer.Instant
