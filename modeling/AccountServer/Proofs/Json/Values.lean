import AccountServer.Account.User
import AccountServer.Proofs.Json.Same
import AccountServer.Proofs.Text.Uuid
import AccountServer.Proofs.Time.Text

/-!
# Texts that are read further

Identifiers, roles and times are written as texts, and each reads back from its own. A member for
a value that may be missing is there if the value is.
-/

namespace AccountServer

/-! ## Texts -/

/-- A value that is kept as a text reads back if the text does. -/
theorem Json.decodeText_string {α : Type} {read : String → Option α} {text : String} {a : α}
    (h : read text = some a) : decodeText read (.string text) = .ok a := by
  have htext : decodeString (.string text) = .ok text := rfl
  simp only [decodeText, htext, bind, Except.bind, h]

/-- Of a text there is only one form. -/
theorem Json.decode_of_same_string {α : Type} {decode : Decoder α} {text : String} {a : α}
    (h : decode (.string text) = .ok a) (j : Json) (hj : j.Same (.string text)) :
    decode j = .ok a := by
  rw [hj.eq_string]
  exact h

theorem Uuid.decode_toJson (id : Uuid) : decode id.toJson = .ok id :=
  Json.decodeText_string (parse?_toText id)

theorem Role.decode_toJson (role : Role) : decode role.toJson = .ok role := by
  cases role <;> rfl

/-- A time reads back to the nanosecond, if there is such a time. -/
theorem Instant.decode_toJson {t : Instant} (h : t.Civil) : decode t.toJson = .ok t :=
  Json.decodeText_string (parse?_toText h)

/-! ## Members for what is there -/

namespace Json

variable {α : Type} (name : String) (toJson : α → Json) (a? : Option α)

theorem names_present : ((present name toJson a?).map Prod.fst).Sublist [name] := by
  cases a? <;> simp [present]

/-- A member is found under its own name only, and only if there is a value. -/
theorem lookup_present (key : String) :
    (present name toJson a?).lookup key = if key = name then a?.map toJson else none := by
  cases a? with
  | none => simp [present]
  | some a =>
    by_cases h : key = name
    · simp [present, h]
    · simp [present, List.lookup_cons, h, beq_false_of_ne h]

end Json

end AccountServer
