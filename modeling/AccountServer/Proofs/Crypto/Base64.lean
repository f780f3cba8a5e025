import AccountServer.Crypto.Base64

/-!
# Base 64 read back

What has been written in base 64 reads back as it was (`decode?_encode`), so different bytes are
written differently. It does for every alphabet whose characters stand for one digit each
(`Alphabet.Lawful`), as those of both alphabets in use do.
-/

namespace AccountServer.Crypto.Base64

/-- Every digit is written with a character that is read as this digit. -/
def Alphabet.Lawful (a : Alphabet) : Prop := ∀ d < 64, a.digit? (a.char d) = some d

theorem Alphabet.standard_lawful : Alphabet.standard.Lawful := by
  unfold Lawful
  decide

theorem Alphabet.forUrl_lawful : Alphabet.forUrl.Lawful := by
  unfold Lawful
  decide

/-! ## Digits -/

theorem digits_lt : ∀ bytes : Bytes, ∀ d ∈ digits bytes, d < 64
  | [], d, h => by cases h
  | [x], d, h => by
    have hx := x.toNat_lt
    simp only [digits, List.mem_cons, List.not_mem_nil, or_false] at h
    omega
  | [x, y], d, h => by
    have hx := x.toNat_lt
    have hy := y.toNat_lt
    simp only [digits, List.mem_cons, List.not_mem_nil, or_false] at h
    omega
  | x :: y :: z :: rest, d, h => by
    have hx := x.toNat_lt
    have hy := y.toNat_lt
    have hz := z.toNat_lt
    have ih := digits_lt rest d
    simp only [digits, List.mem_cons] at h
    rcases h with h | h | h | h | h
    all_goals first | exact ih h | omega

/-- A byte is made again of its upper and its lower bits. -/
theorem ofNat_of_toNat_eq {n : Nat} {x : UInt8} (h : n = x.toNat) : UInt8.ofNat n = x := by
  rw [h, UInt8.ofNat_toNat]

/-- Bytes read back from their digits, in groups of three and what is left. -/
theorem ofDigits?_digits : ∀ bytes : Bytes, ofDigits? (digits bytes) = some bytes
  | [] => rfl
  | [x] => by
    have hx : x.toNat / 4 * 4 + x.toNat % 4 * 16 / 16 = x.toNat := by omega
    have hpad : x.toNat % 4 * 16 % 16 = 0 := by omega
    simp only [digits, ofDigits?, hpad, if_true, ofNat_of_toNat_eq hx]
  | [x, y] => by
    have hy' := y.toNat_lt
    have hx : x.toNat / 4 * 4 + (x.toNat % 4 * 16 + y.toNat / 16) / 16 = x.toNat := by omega
    have hy : (x.toNat % 4 * 16 + y.toNat / 16) % 16 * 16 + y.toNat % 16 * 4 / 4 = y.toNat := by
      omega
    have hpad : y.toNat % 16 * 4 % 4 = 0 := by omega
    simp only [digits, ofDigits?, hpad, if_true, ofNat_of_toNat_eq hx, ofNat_of_toNat_eq hy]
  | x :: y :: z :: rest => by
    have hy' := y.toNat_lt
    have hz' := z.toNat_lt
    have hx : x.toNat / 4 * 4 + (x.toNat % 4 * 16 + y.toNat / 16) / 16 = x.toNat := by omega
    have hy : (x.toNat % 4 * 16 + y.toNat / 16) % 16 * 16 +
        (y.toNat % 16 * 4 + z.toNat / 64) / 4 = y.toNat := by
      omega
    have hz : (y.toNat % 16 * 4 + z.toNat / 64) % 4 * 64 + z.toNat % 64 = z.toNat := by omega
    simp only [digits, ofDigits?, ofDigits?_digits rest, Option.map_some, ofNat_of_toNat_eq hx,
      ofNat_of_toNat_eq hy, ofNat_of_toNat_eq hz]

/-! ## Characters -/

theorem Alphabet.Lawful.mapM_digit? {a : Alphabet} (h : a.Lawful) {ds : List Nat}
    (hds : ∀ d ∈ ds, d < 64) : (ds.map a.char).mapM a.digit? = some ds := by
  induction ds with
  | nil => rfl
  | cons d ds ih =>
    obtain ⟨hd, hds⟩ := List.forall_mem_cons.mp hds
    simp [List.mapM_cons, h d hd, ih hds]

/-- What was written reads back. -/
theorem decode?_encode {a : Alphabet} (h : a.Lawful) (bytes : Bytes) :
    decode? a (encode a bytes) = some bytes := by
  rw [decode?, encode, h.mapM_digit? (digits_lt bytes), Option.bind_some, ofDigits?_digits]

/-- So no two lists of bytes have the same text. -/
theorem encode_injective {a : Alphabet} (h : a.Lawful) {x y : Bytes}
    (heq : encode a x = encode a y) : x = y := by
  have hdecode := decode?_encode h x
  rw [heq, decode?_encode h y] at hdecode
  exact (Option.some.inj hdecode).symm

/-- No text in the alphabet for URLs has a point. -/
theorem point_not_mem_encode (bytes : Bytes) : '.' ∉ encode .forUrl bytes := by
  have hchar : ∀ d < 64, Alphabet.forUrl.char d ≠ '.' := by decide
  intro h
  obtain ⟨d, hd, heq⟩ := List.mem_map.mp h
  exact hchar d (digits_lt bytes d hd) heq

end AccountServer.Crypto.Base64
