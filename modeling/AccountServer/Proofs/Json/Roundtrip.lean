import AccountServer.Json.Decode
import AccountServer.Proofs.Json.Scalar

/-!
# JSON read back

A value reads back from its text (`read_text`). It must have nothing in it that the text does not
show: no floating point number, which is written in one of several forms, no part that could not be
read, and no whole number beyond 64 bits. Nor may its containers be nested deeper than a reader
goes. `Plain` puts these conditions together; its proof shows the levels of the value one by one, as
`readValue` goes through them.
-/

namespace AccountServer.Json

/-- A value of scalars that read back, with at most so many levels of containers. -/
inductive Plain : Nat → Json → Prop where
  | null (room : Nat) : Plain room .null
  | bool (room : Nat) (b : Bool) : Plain room (.bool b)
  | int (room : Nat) (n : Int) (whole : IsWhole n) : Plain room (.int n)
  | string (room : Nat) (s : String) : Plain room (.string s)
  | array (room : Nat) (items : List Json) (plain : ∀ j ∈ items, Plain room j) :
      Plain (room + 1) (.array items)
  | object (room : Nat) (members : List (String × Json)) (plain : ∀ m ∈ members, Plain room m.2) :
      Plain (room + 1) (.object members)

/-! ## How a text begins -/

theorem skipBlanks_cons {c : Char} (h : isBlank c = false) (rest : List Char) :
    skipBlanks (c :: rest) = c :: rest :=
  List.dropWhile_cons_of_neg (by simp [h])

theorem not_mem_of_numeral {c : Char} (h : c.isDigit = true ∨ c = '-') (cs : List Char)
    (hcs : cs.all (fun d => !d.isDigit && d != '-') = true) : c ∉ cs := by
  intro hmem
  have hc := List.all_eq_true.mp hcs c hmem
  rcases h with h | rfl
  · simp [h] at hc
  · simp at hc

/-- The text of a value begins neither with a blank nor with a closing bracket. -/
theorem Plain.exists_chars_eq {room : Nat} {j : Json} (h : Plain room j) :
    ∃ c cs, j.chars = c :: cs ∧ isBlank c = false ∧ c ≠ ']' := by
  cases h with
  | null => exact ⟨_, _, rfl, rfl, by decide⟩
  | bool _ b => cases b <;> exact ⟨_, _, rfl, rfl, by decide⟩
  | int _ n whole =>
    obtain ⟨c, cs, heq, hc⟩ := exists_toList_toString_int n
    have hblank := not_mem_of_numeral hc [' ', '\n', '\t', '\r', ']'] rfl
    simp only [List.mem_cons, List.not_mem_nil, or_false, not_or] at hblank
    exact ⟨c, cs, heq, by simp [isBlank, hblank], hblank.2.2.2.2⟩
  | string _ s => exact ⟨_, _, rfl, rfl, by decide⟩
  | array _ items => cases items <;> exact ⟨_, _, rfl, rfl, by decide⟩
  | object _ members => cases members <;> exact ⟨_, _, rfl, rfl, by decide⟩

theorem Plain.skipBlanks_chars {room : Nat} {j : Json} (h : Plain room j) (rest : List Char) :
    skipBlanks (j.chars ++ rest) = j.chars ++ rest := by
  obtain ⟨c, cs, heq, hblank, -⟩ := h.exists_chars_eq
  rw [heq]
  exact skipBlanks_cons hblank _

/-! ## Containers -/

/-- A reader that reads a value back from its text. -/
def Reads (element : List Char → Reading) (j : Json) : Prop :=
  (∀ rest, Apart rest → element (j.chars ++ rest) = (j, some rest)) ∧
    ∀ rest, skipBlanks (j.chars ++ rest) = j.chars ++ rest

/-- What comes behind a number is not taken for a part of it. -/
theorem apart_cons {c : Char} (hdigit : c.isDigit = false) (hpoint : c ≠ '.') (he : c ≠ 'e')
    (hE : c ≠ 'E') (rest : List Char) : Apart (c :: rest) := by
  intro d hd
  obtain rfl : c = d := by simpa using hd
  exact ⟨hdigit, hpoint, he, hE⟩

/-- The items are read one by one, each up to the comma or bracket behind it. -/
theorem readItems_chars {element : List Char → Reading} (items : List Json) :
    ∀ {fuel : Nat} (done : List Json) (j : Json) (rest : List Char), items.length < fuel →
    (∀ i ∈ j :: items, Reads element i) →
    readItems element fuel done (j.chars ++ (itemChars items ++ rest)) =
      (.array (done.reverse ++ j :: items), some rest) := by
  induction items with
  | nil =>
    intro fuel done j rest hfuel hreads
    obtain ⟨fuel, rfl⟩ := Nat.exists_eq_succ_of_ne_zero (Nat.ne_of_gt hfuel)
    have hj := (hreads j List.mem_cons_self).1 (']' :: rest)
      (apart_cons rfl (by decide) (by decide) (by decide) rest)
    show readItems element (fuel + 1) done (j.chars ++ ']' :: rest) = _
    rw [readItems, hj]
    simp [skipBlanks_cons (c := ']') rfl rest]
  | cons i items ih =>
    intro fuel done j rest hfuel hreads
    obtain ⟨fuel, rfl⟩ := Nat.exists_eq_succ_of_ne_zero (Nat.ne_of_gt (Nat.zero_lt_of_lt hfuel))
    obtain ⟨hj, hrest⟩ := List.forall_mem_cons.mp hreads
    have hread := hj.1 (',' :: (i.chars ++ (itemChars items ++ rest)))
      (apart_cons rfl (by decide) (by decide) (by decide) _)
    have htext : itemChars (i :: items) ++ rest =
        ',' :: (i.chars ++ (itemChars items ++ rest)) := by
      simp [itemChars]
    rw [htext, readItems, hread]
    simp only [skipBlanks_cons (c := ',') rfl, (hreads i (by simp)).2]
    rw [ih (j :: done) i rest (by simpa using hfuel) hrest]
    simp

theorem readMember_chars {element : List Char → Reading} {j : Json} (h : Reads element j)
    (name : String) (rest : List Char) (hapart : Apart rest) :
    readMember element (quote name ++ ':' :: (j.chars ++ rest)) = ((name, j), some rest) := by
  rw [quote_append]
  simp only [readMember, stringBody_quote, skipBlanks_cons (c := ':') rfl, h.2, h.1 rest hapart]

/-- The members are read one by one, each up to the comma or brace behind it. -/
theorem readMembers_chars {element : List Char → Reading} (members : List (String × Json)) :
    ∀ {fuel : Nat} (done : List (String × Json)) (name : String) (j : Json) (rest : List Char),
    members.length < fuel → (∀ m ∈ (name, j) :: members, Reads element m.2) →
    readMembers element fuel done
        (quote name ++ ':' :: (j.chars ++ (memberChars members ++ rest))) =
      (.object (done.reverse ++ (name, j) :: members), some rest) := by
  induction members with
  | nil =>
    intro fuel done name j rest hfuel hreads
    obtain ⟨fuel, rfl⟩ := Nat.exists_eq_succ_of_ne_zero (Nat.ne_of_gt hfuel)
    have hj : Reads element j := hreads (name, j) List.mem_cons_self
    have hread := readMember_chars hj name ('}' :: rest)
      (apart_cons rfl (by decide) (by decide) (by decide) rest)
    show readMembers element (fuel + 1) done (quote name ++ ':' :: (j.chars ++ '}' :: rest)) = _
    rw [readMembers, hread]
    simp [skipBlanks_cons (c := '}') rfl rest]
  | cons m members ih =>
    intro fuel done name j rest hfuel hreads
    obtain ⟨fuel, rfl⟩ := Nat.exists_eq_succ_of_ne_zero (Nat.ne_of_gt (Nat.zero_lt_of_lt hfuel))
    obtain ⟨hj, hrest⟩ := List.forall_mem_cons.mp hreads
    obtain ⟨next, i⟩ := m
    have hread := readMember_chars hj name
      (',' :: (quote next ++ ':' :: (i.chars ++ (memberChars members ++ rest))))
      (apart_cons rfl (by decide) (by decide) (by decide) _)
    have htext : memberChars ((next, i) :: members) ++ rest =
        ',' :: (quote next ++ ':' :: (i.chars ++ (memberChars members ++ rest))) := by
      simp [memberChars]
    have hquote : skipBlanks (quote next ++ ':' :: (i.chars ++ (memberChars members ++ rest))) =
        quote next ++ ':' :: (i.chars ++ (memberChars members ++ rest)) := by
      rw [quote_append]
      exact skipBlanks_cons rfl _
    rw [htext, readMembers, hread]
    simp only [skipBlanks_cons (c := ',') rfl, hquote]
    rw [ih ((name, j) :: done) next i rest (by simpa using hfuel) hrest]
    simp

/-! ## Values -/

theorem length_lt_itemChars (items : List Json) : items.length < (itemChars items).length := by
  induction items with
  | nil => simp [itemChars]
  | cons j items ih => simp [itemChars]; omega

theorem length_lt_memberChars (members : List (String × Json)) :
    members.length < (memberChars members).length := by
  induction members with
  | nil => simp [memberChars]
  | cons m members ih => obtain ⟨name, j⟩ := m; simp [memberChars]; omega

theorem readValue_scalar {room : Nat} {cs : List Char} (harray : ∀ tail, cs ≠ '[' :: tail)
    (hobject : ∀ tail, cs ≠ '{' :: tail) : readValue room cs = readScalar cs := by
  cases room <;> unfold readValue <;> split <;> simp_all

theorem readValue_int {n : Int} (whole : IsWhole n) (room : Nat) {rest : List Char}
    (hapart : Apart rest) : readValue room ((Json.int n).chars ++ rest) = (.int n, some rest) := by
  obtain ⟨c, cs, heq, hc⟩ := exists_toList_toString_int n
  have hbracket := not_mem_of_numeral hc ['[', '{'] rfl
  simp only [List.mem_cons, List.not_mem_nil, or_false, not_or] at hbracket
  show readValue room ((toString n).toList ++ rest) = _
  rw [readValue_scalar, readScalar_int whole hapart]
  · rw [heq]
    exact fun tail h => hbracket.1 (List.cons.inj h).1
  · rw [heq]
    exact fun tail h => hbracket.2 (List.cons.inj h).1

/-- A list reads back if its elements do, and the first one does not look like the end of it. -/
theorem readValue_array {room : Nat} {j : Json} {items : List Json} (first : Plain room j)
    (hreads : ∀ i ∈ j :: items, Reads (readValue room) i) (rest : List Char) :
    readValue (room + 1) ((Json.array (j :: items)).chars ++ rest) =
      (.array (j :: items), some rest) := by
  have htext : (Json.array (j :: items)).chars ++ rest =
      '[' :: (j.chars ++ (itemChars items ++ rest)) := by
    simp [chars]
  obtain ⟨c, cs, hchars, -, hbracket⟩ := first.exists_chars_eq
  rw [htext, readValue, (hreads j List.mem_cons_self).2]
  split
  · next heq =>
    rw [hchars] at heq
    exact absurd (List.cons.inj heq).1 hbracket
  · have hfuel : items.length < (j.chars ++ (itemChars items ++ rest)).length + 1 := by
      have := length_lt_itemChars items
      simp only [List.length_append]
      omega
    exact readItems_chars items [] j rest hfuel hreads

theorem readValue_object {room : Nat} {name : String} {j : Json} {members : List (String × Json)}
    (hreads : ∀ m ∈ (name, j) :: members, Reads (readValue room) m.2) (rest : List Char) :
    readValue (room + 1) ((Json.object ((name, j) :: members)).chars ++ rest) =
      (.object ((name, j) :: members), some rest) := by
  have htext : (Json.object ((name, j) :: members)).chars ++ rest =
      '{' :: (quote name ++ ':' :: (j.chars ++ (memberChars members ++ rest))) := by
    simp [chars]
  have hfuel : members.length <
      (quote name ++ ':' :: (j.chars ++ (memberChars members ++ rest))).length + 1 := by
    have := length_lt_memberChars members
    simp only [List.length_append, List.length_cons]
    omega
  have hread := readMembers_chars members [] name j rest hfuel hreads
  rw [quote_append] at htext hread
  rw [htext, readValue, skipBlanks_cons rfl]
  exact hread

/-- A value reads back, whatever stands behind it. -/
theorem readValue_chars {room : Nat} {j : Json} (h : Plain room j) :
    ∀ rest, Apart rest → readValue room (j.chars ++ rest) = (j, some rest) := by
  induction h with
  | null room => exact fun rest _ => by cases room <;> rfl
  | bool room b => exact fun rest _ => by cases room <;> cases b <;> rfl
  | int room n whole => exact fun rest hapart => readValue_int whole room hapart
  | string room s =>
    intro rest _
    show readValue room (quote s ++ rest) = _
    rw [quote_append, readValue_scalar (by simp) (by simp)]
    exact readString_quote s rest
  | array room items plain ih =>
    intro rest _
    cases items with
    | nil => rfl
    | cons j items =>
      exact readValue_array (plain j List.mem_cons_self)
        (fun i hi => ⟨ih i hi, (plain i hi).skipBlanks_chars⟩) rest
  | object room members plain ih =>
    intro rest _
    cases members with
    | nil => rfl
    | cons m members =>
      exact readValue_object (fun m hm => ⟨ih m hm, (plain m hm).skipBlanks_chars⟩) rest

/-! ## Texts -/

/-- A whole document reads back, and nothing is left of it. -/
theorem read_text {j : Json} (h : Plain maxDepth j) : read j.text = ⟨j, true⟩ := by
  have hskip := h.skipBlanks_chars []
  have hread := readValue_chars h [] (by simp [Apart])
  rw [List.append_nil] at hskip hread
  rw [read, text, String.toList_ofList, hskip, hread]
  rfl

/-- To decode the text of a value is to decode the value. -/
theorem decodeDocument_text {α : Type} (decode : Decoder α) {j : Json} (h : Plain maxDepth j) :
    decodeDocument decode j.text = decode j := by
  rw [decodeDocument, read_text h]
  cases decode j <;> rfl

end AccountServer.Json
