import Mathlib.Algebra.Group.Nat.Defs
import AccountServer.Uuid

/-!
# The written form of identifiers

* Round trip: the hyphenated form is read back as the identifier.
* Order: the hyphenated forms compare as texts just as the identifiers do. Digits come in order of
  their values, all forms are of one length, and the hyphens stand at the same places.
-/

namespace AccountServer

/-! ## Hexadecimal digits -/

namespace Text

theorem hexValue?_hexDigit : ∀ d < 16, hexValue? (hexDigit d) = some d := by decide

theorem hexDigit_lt : ∀ d < 16, ∀ e < 16, d < e → hexDigit d < hexDigit e := by decide

@[simp] theorem length_hexDigits : ∀ width n : Nat, (hexDigits width n).length = width
  | 0, _ => rfl
  | width + 1, n => by simp [hexDigits, length_hexDigits width]

theorem hexNumber?_append (cs : List Char) (c : Char) :
    hexNumber? (cs ++ [c]) = (do return (← hexNumber? cs) * 16 + (← hexValue? c)) := by
  simp [hexNumber?, List.foldl_append]

/-- The number that the last digits stand for. -/
theorem hexNumber?_hexDigits : ∀ width n : Nat,
    hexNumber? (hexDigits width n) = some (n % 16 ^ width)
  | 0, n => by simp [hexDigits, hexNumber?, Nat.mod_one]
  | width + 1, n => by
    have hlt : n % 16 < 16 := Nat.mod_lt _ (by decide)
    rw [hexDigits, hexNumber?_append, hexNumber?_hexDigits width, hexValue?_hexDigit _ hlt]
    -- The quotient has the other digits, and the remainder is the last one.
    have hmod : n / 16 % 16 ^ width * 16 + n % 16 = n % 16 ^ (width + 1) := by
      rw [Nat.pow_succ, Nat.mul_comm (16 ^ width) 16, Nat.mod_mul]
      omega
    rw [← hmod]
    rfl

/-- What follows does not matter once texts of one length differ. -/
theorem append_lt_append : ∀ {as bs : List Char} (cs ds : List Char),
    as.length = bs.length → as < bs → as ++ cs < bs ++ ds
  | [], [], _, _, _, h => absurd h (List.not_lt_nil _)
  | a :: as, b :: bs, cs, ds, hlen, h => by
    rw [List.cons_append, List.cons_append, List.cons_lt_cons_iff]
    rcases List.cons_lt_cons_iff.mp h with hab | ⟨hab, h⟩
    · exact Or.inl hab
    · exact Or.inr ⟨hab, append_lt_append cs ds (Nat.succ.inj hlen) h⟩

/-- Digits of one number compare as the numbers do. -/
theorem hexDigits_lt : ∀ {width m n : Nat}, n < 16 ^ width → m < n →
    hexDigits width m < hexDigits width n
  | 0, m, n, hn, h => by omega
  | width + 1, m, n, hn, h => by
    rw [hexDigits, hexDigits]
    by_cases hd : m / 16 < n / 16
    · have hlt : n / 16 < 16 ^ width := by rw [Nat.pow_succ] at hn; omega
      exact append_lt_append _ _ (by simp) (hexDigits_lt hlt hd)
    · -- All digits but the last one are the same.
      have heq : m / 16 = n / 16 := by omega
      rw [heq]
      refine List.append_left_lt (List.cons_lt_cons_iff.mpr (Or.inl ?_))
      exact hexDigit_lt _ (by omega) _ (by omega) (by omega)

/-- Of two texts, the lesser one is so in its first part, or else behind it. -/
theorem take_append_lt : ∀ (k : Nat) {as bs : List Char} {cs ds : List Char},
    as.length = bs.length → as < bs → (as.drop k < bs.drop k → cs < ds) →
    as.take k ++ cs < bs.take k ++ ds
  | 0, _, _, _, _, _, h, hrest => by simpa using hrest (by simpa using h)
  | k + 1, [], [], _, _, _, h, _ => absurd h (List.not_lt_nil _)
  | k + 1, a :: as, b :: bs, cs, ds, hlen, h, hrest => by
    rw [List.take_succ_cons, List.take_succ_cons, List.cons_append, List.cons_append,
      List.cons_lt_cons_iff]
    rcases List.cons_lt_cons_iff.mp h with hab | ⟨hab, h⟩
    · exact Or.inl hab
    · exact Or.inr ⟨hab, take_append_lt k (Nat.succ.inj hlen) h hrest⟩

end Text

namespace Uuid

open Text

@[simp] theorem length_digits (id : Uuid) : id.digits.length = 32 := length_hexDigits 32 _

theorem length_hyphenate {ds : List Char} (h : ds.length = 32) : (hyphenate ds).length = 36 := by
  simp [hyphenate, h]

/-! ## Reading what was written -/

/-- Groups of the right lengths are found again. -/
theorem unhyphenate?_groups {a b c d e : List Char} (ha : a.length = 8) (hb : b.length = 4)
    (hc : c.length = 4) (hd : d.length = 4) (he : e.length = 12) :
    unhyphenate? (a ++ '-' :: (b ++ '-' :: (c ++ '-' :: (d ++ '-' :: e)))) =
      some (a ++ (b ++ (c ++ (d ++ e)))) := by
  simp [unhyphenate?, List.drop_append, List.drop_of_length_le, ha, hb, hc, hd, he]

theorem unhyphenate?_hyphenate {ds : List Char} (h : ds.length = 32) :
    unhyphenate? (hyphenate ds) = some ds := by
  rw [hyphenate, unhyphenate?_groups (by simp [h]) (by simp [h]) (by simp [h]) (by simp [h])
    (by simp [h])]
  have join (k : Nat) : (ds.drop k).take 4 ++ ds.drop (k + 4) = ds.drop k := by
    rw [← List.drop_drop, List.take_append_drop]
  rw [join 16, join 12, join 8, List.take_append_drop]

/-- Identifiers read back from their 32 digits. -/
theorem ofDigits?_digits (id : Uuid) : ofDigits? id.digits = some id := by
  have hlt : id.bits.toNat < 16 ^ 32 := id.bits.isLt
  rw [ofDigits?, if_pos id.length_digits, digits, hexNumber?_hexDigits, Nat.mod_eq_of_lt hlt]
  simp

/-- The hyphenated form is read back. -/
@[simp] theorem parse?_toText (id : Uuid) : parse? id.toText = some id := by
  have hlen : (hyphenate id.digits).length = 36 := length_hyphenate id.length_digits
  unfold parse? toText
  simp only [String.toList_ofList, hlen, unwrap?, Nat.reduceEqDiff, if_false, if_true,
    Option.bind_some, unhyphenate?_hyphenate id.length_digits, ofDigits?_digits]

/-- So no two identifiers have the same text. -/
theorem toText_injective {a b : Uuid} (h : a.toText = b.toText) : a = b := by
  have ha := parse?_toText a
  rw [h, parse?_toText] at ha
  exact (Option.some.inj ha).symm

/-! ## Order -/

theorem hyphenate_lt {ds es : List Char} (hlen : ds.length = es.length) (h : ds < es) :
    hyphenate ds < hyphenate es := by
  -- Group by group: what follows counts only where it is still undecided.
  have drop_length (k : Nat) : (ds.drop k).length = (es.drop k).length := by simp [hlen]
  refine take_append_lt 8 hlen h fun h8 => List.cons_lt_cons_self.mpr ?_
  refine take_append_lt 4 (drop_length 8) h8 fun h12 => List.cons_lt_cons_self.mpr ?_
  rw [List.drop_drop, List.drop_drop] at h12
  refine take_append_lt 4 (drop_length 12) h12 fun h16 => List.cons_lt_cons_self.mpr ?_
  rw [List.drop_drop, List.drop_drop] at h16
  refine take_append_lt 4 (drop_length 16) h16 fun h20 => List.cons_lt_cons_self.mpr ?_
  rw [List.drop_drop, List.drop_drop] at h20
  exact h20

/-- Identifiers are in the order of their texts. -/
theorem toText_lt {a b : Uuid} (h : a.bits.toNat < b.bits.toNat) : a.toText < b.toText := by
  have hlt : b.bits.toNat < 16 ^ 32 := b.bits.isLt
  rw [String.lt_iff, toText, toText, String.toList_ofList, String.toList_ofList]
  exact hyphenate_lt (by simp) (hexDigits_lt hlt h)

theorem compare_eq_lt_of_lt {s t : String} (h : s < t) : compare s t = .lt :=
  compareOfLessAndEq_eq_lt.mpr h

/-- The written forms compare as the identifiers do. -/
theorem compare_toText (a b : Uuid) :
    compare a.toText b.toText = compare a.bits.toNat b.bits.toNat := by
  have lt_of_lt {a b : Uuid} (h : a.bits.toNat < b.bits.toNat) :
      compare a.toText b.toText = .lt := compare_eq_lt_of_lt (toText_lt h)
  cases hc : compare a.bits.toNat b.bits.toNat with
  | lt => exact lt_of_lt (Nat.compare_eq_lt.mp hc)
  | eq =>
    have hbits : a.bits = b.bits := BitVec.eq_of_toNat_eq (Nat.compare_eq_eq.mp hc)
    have hab : a = b := congrArg Uuid.mk hbits
    rw [hab]
    exact Std.ReflCmp.compare_self
  | gt => exact Std.OrientedCmp.gt_of_lt (lt_of_lt (Nat.compare_eq_gt.mp hc))

end Uuid

end AccountServer
