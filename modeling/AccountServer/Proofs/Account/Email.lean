import Mathlib.Data.List.Basic
import AccountServer.Account.Validation
import AccountServer.Proofs.Except
import AccountServer.Proofs.Text.Split

/-!
# The form of emails

`EmailParts` is the grammar: a name, an at sign, a host, a point and a last label. A host may have
points and letters itself, so the grammar leaves it open at which point the last label begins; the
check takes the last one, and no other would do, because a label of letters has no point.

* `isEmail_iff`: the check accepts what the grammar derives.
* `EmailParts.count_at`, `EmailParts.ascii`: there is one at sign, and nothing outside ASCII.
-/

namespace AccountServer.Validation

/-! ## Characters -/

/-- An ASCII letter. -/
def Letter (c : Char) : Prop := ('A' ≤ c ∧ c ≤ 'Z') ∨ ('a' ≤ c ∧ c ≤ 'z')

/-- An ASCII letter or digit. -/
def LetterOrDigit (c : Char) : Prop := Letter c ∨ ('0' ≤ c ∧ c ≤ '9')

/-- A character of the part in front of the at sign. -/
def NameChar (c : Char) : Prop := LetterOrDigit c ∨ c ∈ ['.', '_', '%', '+', '-']

/-- A character of a host. -/
def HostChar (c : Char) : Prop := LetterOrDigit c ∨ c ∈ ['.', '-']

theorem isAlpha_iff {c : Char} : c.isAlpha = true ↔ Letter c := by
  show (decide ('A' ≤ c ∧ c ≤ 'Z') || (decide ('a' ≤ c) && decide (c ≤ 'z'))) = true ↔ _
  simp [Letter]

theorem isAlphanum_iff {c : Char} : c.isAlphanum = true ↔ LetterOrDigit c := by
  simp [Char.isAlphanum, isAlpha_iff, Char.isDigit, LetterOrDigit, Char.le_def]

/-- The test of the characters in front of the sign says what the grammar says. -/
theorem isLocalChar_iff {c : Char} : isLocalChar c = true ↔ NameChar c := by
  simp [isLocalChar, NameChar, isAlphanum_iff, or_assoc]

/-- So does the test of the characters behind it. -/
theorem isHostChar_iff {c : Char} : isHostChar c = true ↔ HostChar c := by
  simp [isHostChar, HostChar, isAlphanum_iff, or_assoc]

theorem Letter.ascii {c : Char} (h : Letter c) : c.toNat < 128 := by
  rcases h with ⟨-, h⟩ | ⟨-, h⟩
  all_goals exact Nat.lt_of_le_of_lt (Char.le_def.mp h) (by decide)

theorem LetterOrDigit.ascii {c : Char} (h : LetterOrDigit c) : c.toNat < 128 := by
  rcases h with h | ⟨-, h⟩
  · exact h.ascii
  · exact Nat.lt_of_le_of_lt (Char.le_def.mp h) (by decide)

theorem NameChar.ascii {c : Char} (h : NameChar c) : c.toNat < 128 := by
  have hsigns : ∀ d ∈ ['.', '_', '%', '+', '-'], d.toNat < 128 := by simp
  exact h.elim LetterOrDigit.ascii (hsigns c)

theorem HostChar.ascii {c : Char} (h : HostChar c) : c.toNat < 128 := by
  have hsigns : ∀ d ∈ ['.', '-'], d.toNat < 128 := by simp
  exact h.elim LetterOrDigit.ascii (hsigns c)

theorem Letter.hostChar {c : Char} (h : Letter c) : HostChar c := Or.inl (Or.inl h)

/-- A last label has no point, so it begins behind the last one. -/
theorem not_letter_point : ¬ Letter '.' := by
  rw [← isAlpha_iff]
  decide

theorem not_nameChar_at : ¬ NameChar '@' := by
  rw [← isLocalChar_iff]
  decide

theorem not_hostChar_at : ¬ HostChar '@' := by
  rw [← isHostChar_iff]
  decide

/-! ## The grammar -/

/-- What stands around the last point of `host.tld`. -/
structure DomainParts (host tld : List Char) : Prop where
  host_ne : host ≠ []
  host_chars : ∀ c ∈ host, HostChar c
  tld_length : 2 ≤ tld.length
  tld_chars : ∀ c ∈ tld, Letter c

/-- The parts of `name@host.tld`. -/
structure EmailParts (cs name host tld : List Char) : Prop extends DomainParts host tld where
  text : cs = name ++ '@' :: (host ++ '.' :: tld)
  name_ne : name ≠ []
  name_chars : ∀ c ∈ name, NameChar c

/-- A text is taken for a domain exactly if it is a host, a point and two letters or more. -/
theorem isDomain_iff {cs : List Char} :
    isDomain cs = true ↔ ∃ host tld, cs = host ++ '.' :: tld ∧ DomainParts host tld := by
  constructor
  · intro h
    unfold isDomain at h
    split at h
    · next host tld hsplit =>
      simp only [Bool.and_eq_true, Bool.not_eq_true', List.isEmpty_eq_false_iff, List.all_eq_true,
        decide_eq_true_eq, isHostChar_iff, isAlpha_iff] at h
      obtain ⟨⟨⟨hne, hhost⟩, hlength⟩, htld⟩ := h
      exact ⟨host, tld, Text.eq_of_splitLast hsplit, hne, hhost, hlength, htld⟩
    · contradiction
  · rintro ⟨host, tld, rfl, hne, hhost, hlength, htld⟩
    -- A label of letters has no point, so the last point is the one in front of it.
    have hpoint : '.' ∉ tld := fun hmem => not_letter_point (htld _ hmem)
    unfold isDomain
    rw [Text.splitLast_append hpoint]
    simpa [isHostChar_iff, isAlpha_iff] using ⟨⟨⟨hne, hhost⟩, hlength⟩, htld⟩

/-- A text is taken for an address exactly if its parts can be named. -/
theorem isEmail_iff {cs : List Char} :
    isEmail cs = true ↔ ∃ name host tld, EmailParts cs name host tld := by
  constructor
  · intro h
    unfold isEmail at h
    split at h
    · next name domain hsplit =>
      simp only [Bool.and_eq_true, Bool.not_eq_true', List.isEmpty_eq_false_iff, List.all_eq_true,
        isLocalChar_iff, isDomain_iff] at h
      obtain ⟨⟨hne, hname⟩, host, tld, rfl, hdomain⟩ := h
      obtain ⟨-, htext⟩ := Text.splitFirst_eq_some_iff.mp hsplit
      exact ⟨name, host, tld, hdomain, htext, hne, hname⟩
    · contradiction
  · rintro ⟨name, host, tld, hdomain, rfl, hne, hname⟩
    have hat : '@' ∉ name := fun hmem => not_nameChar_at (hname _ hmem)
    have hform : isDomain (host ++ '.' :: tld) = true :=
      isDomain_iff.mpr ⟨host, tld, rfl, hdomain⟩
    unfold isEmail
    rw [Text.splitFirst_append hat]
    simpa [isLocalChar_iff, hform] using ⟨hne, hname⟩

section Parts

variable {cs name host tld : List Char}

theorem DomainParts.hostChar (h : DomainParts host tld) :
    ∀ c ∈ host ++ '.' :: tld, HostChar c := by
  intro c hc
  rcases List.mem_append.mp hc with hc | hc
  · exact h.host_chars c hc
  · rcases List.mem_cons.mp hc with rfl | hc
    · exact Or.inr List.mem_cons_self
    · exact (h.tld_chars c hc).hostChar

/-- There is one at sign in an email. -/
theorem EmailParts.count_at (h : EmailParts cs name host tld) : cs.count '@' = 1 := by
  have hname : name.count '@' = 0 :=
    List.count_eq_zero.mpr fun hmem => not_nameChar_at (h.name_chars _ hmem)
  have hdomain : (host ++ '.' :: tld).count '@' = 0 :=
    List.count_eq_zero.mpr fun hmem => not_hostChar_at (h.toDomainParts.hostChar _ hmem)
  rw [h.text, List.count_append, List.count_cons_self, hname, hdomain]

/-- All characters of an email are in ASCII. -/
theorem EmailParts.ascii (h : EmailParts cs name host tld) : ∀ c ∈ cs, c.toNat < 128 := by
  rw [h.text]
  intro c hc
  rcases List.mem_append.mp hc with hc | hc
  · exact (h.name_chars c hc).ascii
  · rcases List.mem_cons.mp hc with rfl | hc
    · decide
    · exact (h.toDomainParts.hostChar c hc).ascii

end Parts

/-! ## The check -/

theorem email_eq_ok_iff {text : String} :
    email text = .ok () ↔
      text.utf8ByteSize ≤ 254 ∧ ∃ name host tld, EmailParts text.toList name host tld := by
  rw [← isEmail_iff]
  unfold email
  by_cases hempty : text = ""
  · simp [hempty, isEmail, Text.splitFirst]
  · by_cases hsize : 254 < text.utf8ByteSize
    · simp [hempty, hsize, Nat.not_le_of_lt hsize]
    · by_cases hform : isEmail text.toList = true
      · simp [hempty, hsize, hform, Nat.le_of_not_lt hsize]
      · simp [hempty, hsize, hform]

/-- Without a text there is no address, and any other text has to be one. -/
theorem optionalEmail_eq_ok_iff {text : String} {result : Option String} :
    optionalEmail text = .ok result ↔
      (text = "" ∧ result = none) ∨ (email text = .ok () ∧ result = some text) := by
  by_cases hempty : text = ""
  · subst hempty
    have hrefused : email "" = .error .emailMissing := rfl
    show Except.ok none = Except.ok result ↔ _
    simp [hrefused, eq_comm]
  · have hstep : optionalEmail text = (email text >>= fun _ => .ok (some text)) := by
      rw [optionalEmail, if_neg (by simpa using hempty)]
      rfl
    rw [hstep, bind_eq_ok_iff]
    simp only [hempty, false_and, false_or]
    constructor
    · rintro ⟨⟨⟩, hok, heq⟩
      exact ⟨hok, (Except.ok.inj heq).symm⟩
    · rintro ⟨hok, rfl⟩
      exact ⟨(), hok, rfl⟩

/-- **Emails are accepted by their grammar.** A text is taken for an email exactly if it has at most
254 bytes and is, from beginning to end, a name, an at sign, a host, a point and a last label. Then
it has one at sign and nothing outside ASCII. Where no email is needed, the empty text stands for
none, and an email for itself. -/
theorem emails_accepted_by_grammar (text : String) :
    (email text = .ok () ↔
      text.utf8ByteSize ≤ 254 ∧ ∃ name host tld, EmailParts text.toList name host tld) ∧
    (email text = .ok () → text.toList.count '@' = 1 ∧ ∀ c ∈ text.toList, c.toNat < 128) ∧
    ∀ result, optionalEmail text = .ok result ↔
      (text = "" ∧ result = none) ∨ (email text = .ok () ∧ result = some text) := by
  refine ⟨email_eq_ok_iff, fun hok => ?_, fun result => optionalEmail_eq_ok_iff⟩
  obtain ⟨-, name, host, tld, hparts⟩ := email_eq_ok_iff.mp hok
  exact ⟨hparts.count_at, hparts.ascii⟩

/-- A host with points and letters of its own. -/
theorem emails_accepted_by_grammar_with_points :
    let text := "a.b+tag@sub.example.org"
    email text = .ok () ∧ text.toList.count '@' = 1 ∧ optionalEmail text = .ok (some text) := by
  intro text
  obtain ⟨haccepted, hshape, hoptional⟩ := emails_accepted_by_grammar text
  have hparts : EmailParts text.toList "a.b+tag".toList "sub.example".toList "org".toList := by
    have hname : ∀ c ∈ "a.b+tag".toList, isLocalChar c = true := List.all_eq_true.mp (by decide)
    have hhost : ∀ c ∈ "sub.example".toList, isHostChar c = true := List.all_eq_true.mp (by decide)
    have htld : ∀ c ∈ "org".toList, c.isAlpha = true := List.all_eq_true.mp (by decide)
    exact ⟨⟨by decide, fun c hc => isHostChar_iff.mp (hhost c hc), by decide,
      fun c hc => isAlpha_iff.mp (htld c hc)⟩, by decide, by decide,
      fun c hc => isLocalChar_iff.mp (hname c hc)⟩
  have hok : email text = .ok () := haccepted.mpr ⟨by decide, _, _, _, hparts⟩
  exact ⟨hok, (hshape hok).1, (hoptional _).mpr (Or.inr ⟨hok, rfl⟩)⟩

/-- A line break at the end belongs to no part. -/
example : email "alice@example.com\n" = .error .emailForm := by decide +kernel

end AccountServer.Validation
