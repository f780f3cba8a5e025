/-!
# Failures of password hashing
-/

namespace AccountServer

/-- Why a password could not be hashed or did not pass. -/
inductive PasswordError where
  | mismatch
  /-- The stored hash is not in the PHC format. -/
  | malformed
  /-- The parameters are out of range, or the parts of the stored hash are. -/
  | hashing
  deriving DecidableEq, Repr

def PasswordError.message : PasswordError → String
  | .mismatch => "password does not match"
  | .malformed => "stored password hash is malformed"
  | .hashing => "password hashing failed"

/-- The kind of failure in one word, as reports show it. -/
def PasswordError.name : PasswordError → String
  | .mismatch => "Mismatch"
  | .malformed => "Malformed"
  | .hashing => "Hashing"

end AccountServer
