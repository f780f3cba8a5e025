import AccountServer.Crypto.Bytes

/-!
# Texts as bytes

The bytes of a text in UTF-8 read back as that text, so different texts have different bytes.
-/

namespace AccountServer.Crypto

theorem byteArray_toList_loop (bytes : ByteArray) (i : Nat) (done : List UInt8) :
    ByteArray.toList.loop bytes i done = done.reverse ++ bytes.data.toList.drop i := by
  fun_induction ByteArray.toList.loop bytes i done with
  | case1 i done h ih =>
    have hsize : i < bytes.data.toList.length := by simpa using h
    rw [ih, List.reverse_cons, List.append_assoc, List.drop_eq_getElem_cons hsize]
    simp [ByteArray.get!, h]
  | case2 i done h =>
    have hend : bytes.data.toList.drop i = [] := List.drop_of_length_le (by simpa using h)
    rw [hend, List.append_nil]

/-- The bytes of a text are those that the standard library keeps for it. -/
theorem utf8_eq (s : String) : utf8 s = s.toByteArray.data.toList :=
  byteArray_toList_loop s.toByteArray 0 []

theorem toArray_utf8 (s : String) : (⟨(utf8 s).toArray⟩ : ByteArray) = s.toByteArray := by
  rw [utf8_eq]

/-- A text is what its bytes read as. -/
@[simp] theorem fromUTF8?_utf8 (s : String) : String.fromUTF8? ⟨(utf8 s).toArray⟩ = some s := by
  rw [toArray_utf8]
  exact dif_pos s.isValidUTF8

/-- Texts one behind the other have their bytes one behind the other. -/
theorem utf8_append (s t : String) : utf8 (s ++ t) = utf8 s ++ utf8 t := by
  simp [utf8_eq]

theorem utf8_injective {s t : String} (h : utf8 s = utf8 t) : s = t := by
  have hs := fromUTF8?_utf8 s
  rw [h, fromUTF8?_utf8] at hs
  exact (Option.some.inj hs).symm

end AccountServer.Crypto
