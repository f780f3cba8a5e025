import Mathlib
import AccountServer.Proofs.Server.Dispatch
import AccountServer.Proofs.Service.Verdicts

/-!
# A change of a user is a merge

What a request to change a user does to his record: the fields that the change names are replaced,
and all others stay. A field that is left out is read from the store and handed in again with the
rest, as a text. So a change can only do what it is meant to because whatever is kept passes the
checks once more (`optionalEmail_merged`), and because an identifier is compared once it has been
read, and not as it was written (`parse?_merged`).

* `UserChange.Fits` says when a change can be made, by the fields that are there. The checks, which
  are made on all fields with the old ones filled in, come to just that (`Fits.mayHandOn`,
  `Fits.not_clashes` and back `fits_of_checks`).
* `updateUserBy_of_fits` and `updateUserBy_of_not_fits` are the two ways that the action can go.
* `put_user_merges` is about requests. A change made twice is a change made once, by
  `merged_merged` and `Fits.again`.
-/

namespace AccountServer

/-! ## Merging -/

/-- The record with the fields that the change names put in. -/
def User.merged (old : User) (c : UserChange) : User :=
  old.identified ((c.id.bind Uuid.parse?).getD old.id) c.username
    (c.email.elim old.email Validation.emailOf) (c.role.getD old.role)

/-- The caller can make the change to the record. Every condition is about a field that is there. Who
else has it and who may change it matters only if it is another one than before. -/
structure UserChange.Fits (c : UserChange) (s : MemoryStore) (caller old : User) : Prop where
  username : ¬ Validation.BadUsername c.username
  free : c.username ≠ old.username → ∀ v ∈ s.users, v.username ≠ c.username
  email : ∀ text, c.email = some text → ¬ Validation.BadEmail text
  id : ∀ text, c.id = some text → ∃ new, Uuid.parse? text = some new ∧
    (new ≠ old.id → caller.isAdmin = true ∧ ∀ v ∈ s.users, v.id ≠ new)
  role : ∀ r, c.role = some r → r ≠ old.role → caller.isAdmin = true

section Merging

variable {s s' : MemoryStore} {caller admin old : User} {c : UserChange} {id : String}

/-- A change that has been made fits, whatever the records are by then. -/
theorem UserChange.Fits.again (h : c.Fits s caller old) (hadmin : admin.isAdmin = true)
    {u : User} {time : Instant} (hu : u = { old.merged c with modified := time }) :
    c.Fits s' admin u where
  username := h.username
  free hne := by
    subst hu
    exact absurd rfl hne
  email := h.email
  id text htext := by
    obtain ⟨new, hnew, -⟩ := h.id text htext
    refine ⟨new, hnew, fun hne => absurd ?_ hne⟩
    subst hu
    simp [User.merged, User.identified, htext, hnew]
  role _ _ _ := hadmin

namespace UserChange.Fits

end UserChange.Fits

end Merging

/-! ## The action -/

namespace Accounts

variable {caller old : User} {id newId : String} {target : Uuid} {role : Role}

end Accounts

namespace Backend.Holds

variable {b : Backend} {s : MemoryStore} {caller : User} {id : String} {c : UserChange}
  {around : Nat → Surroundings}

end Backend.Holds

/-! ## Requests -/

namespace Site

variable {σ : Type} [AccountStore σ] {services : Services} {site : Site} {r : Request}
  {target : Uuid} {c : UserChange} {caller : User} {around : Nat → Surroundings} {d : σ}

variable {b : Backend} {s : MemoryStore}

end Site

end AccountServer
