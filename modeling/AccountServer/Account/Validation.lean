import AccountServer.Text.Blank
import AccountServer.Text.Quoted
import AccountServer.Text.Split
import AccountServer.Uuid

/-!
# Checks on what callers hand in

`isEmail` accepts `local@host.tld`: a local part and a host that are not empty, over the letters,
digits and signs that each of them admits, and a last label of two letters or more. The last point
of the text divides host and last label, because a label of letters has no point.
-/

namespace AccountServer

/-- What is wrong with an argument. -/
inductive ArgumentFault where
  | usernameMissing
  | usernameControl
  | emailMissing
  | emailTooLong
  | emailForm
  | passwordMissing
  | userId (text : String)
  | secretLength (bytes : Nat)
  | lifetimeZero
  | lifetimeTooLong
  | adminForm
  | other (message : String)
  deriving DecidableEq, Repr

namespace ArgumentFault

def message : ArgumentFault → String
  | .usernameMissing => "Username is required"
  | .usernameControl => "Username must not contain control characters"
  | .emailMissing => "Email is required"
  | .emailTooLong => "Email must be at most 254 characters long"
  | .emailForm => "Invalid email format"
  | .passwordMissing => "Password is required"
  | .userId text => "Invalid user ID: " ++ Text.quoted text
  | .secretLength bytes => "token secret must be 32 to 64 bytes long, got " ++ toString bytes
  | .lifetimeZero => "token_ttl_secs must be positive"
  | .lifetimeTooLong => "token lifetime is too long"
  | .adminForm => "set_admin must look like 'username:password'"
  | .other message => message

end ArgumentFault

namespace Validation

/-- A username is not empty and has no control characters. -/
def username (text : String) : Except ArgumentFault Unit :=
  if text.isEmpty then .error .usernameMissing
  else if text.toList.any Text.isControl then .error .usernameControl
  else .ok ()

/-- A password is not empty. -/
def password (text : String) : Except ArgumentFault Unit :=
  if text.isEmpty then .error .passwordMissing else .ok ()

/-- Characters in front of the `@`. -/
def isLocalChar (c : Char) : Bool :=
  c.isAlphanum || c == '.' || c == '_' || c == '%' || c == '+' || c == '-'

/-- Characters of a host. -/
def isHostChar (c : Char) : Bool := c.isAlphanum || c == '.' || c == '-'

/-- Whether the text is `host.tld`. -/
def isDomain (cs : List Char) : Bool :=
  match Text.splitLast '.' cs with
  | some (host, tld) =>
    !host.isEmpty && host.all isHostChar && 2 ≤ tld.length && tld.all Char.isAlpha
  | none => false

/-- Whether the text is `local@host.tld`. -/
def isEmail (cs : List Char) : Bool :=
  match Text.splitFirst '@' cs with
  | some (name, domain) => !name.isEmpty && name.all isLocalChar && isDomain domain
  | none => false

/-- An email has at most 254 bytes and the form of one. -/
def email (text : String) : Except ArgumentFault Unit :=
  if text.isEmpty then .error .emailMissing
  else if 254 < text.utf8ByteSize then .error .emailTooLong
  else if isEmail text.toList then .ok ()
  else .error .emailForm

/-- The empty text stands for no email. -/
def optionalEmail (text : String) : Except ArgumentFault (Option String) :=
  if text.isEmpty then .ok none
  else do
    email text
    return some text

/-- The identifier that a caller wrote. -/
def userId (text : String) : Except ArgumentFault Uuid :=
  match Uuid.parse? text with
  | some id => .ok id
  | none => .error (.userId text)

end Validation

end AccountServer
