import AccountServer.Crypto.Argon2
import AccountServer.Password.Error
import AccountServer.Password.Phc

/-!
# Hashing passwords

A `PasswordHasher` turns a password and a salt into a text that is safe to keep, and checks a
password against such a text. `argon2` is the one that the server uses. It hashes with its own
work factor, and checks with the one that the kept text names.
-/

namespace AccountServer

open Crypto

/-- Makes and checks kept forms of passwords. -/
structure PasswordHasher where
  hash : (salt : Bytes) → (password : String) → Except PasswordError String
  verify : (password stored : String) → Except PasswordError Unit

/-- How much work a hash takes: the memory in KiB, and how often it is gone through. -/
structure WorkFactor where
  memory : Nat := 19456
  passes : Nat := 2
  deriving DecidableEq, Repr

namespace Argon2Phc

/-- The names of the variants. -/
def variants : List (String × Argon2.Variant) :=
  [("argon2d", .dependent), ("argon2i", .independent), ("argon2id", .hybrid)]

/-- What the parameters of a kept hash say. -/
structure Settings where
  memory : Nat := 19456
  passes : Nat := 2
  lanes : Nat := 1
  data : Bytes := []

/-- The bytes of a parameter, of which there are not too many. -/
def bytes? (most : Nat) (value : String) : Option Bytes :=
  (Base64.decode? .standard value.toList).filter fun bytes => bytes.length ≤ most

/-- Takes in one parameter. The name of a key is allowed and has no effect. -/
def Settings.apply (s : Settings) : String × String → Option Settings
  | (name, value) =>
    match name with
    | "m" => (Phc.decimal? value.toList).map fun n => { s with memory := n }
    | "t" => (Phc.decimal? value.toList).map fun n => { s with passes := n }
    | "p" => (Phc.decimal? value.toList).map fun n => { s with lanes := n }
    | "keyid" => (bytes? 8 value).map fun _ => s
    | "data" => (bytes? 32 value).map fun b => { s with data := b }
    | _ => none

/-- Whether there is enough memory for the lanes, and at least one lane and one pass. -/
def Settings.isValid (s : Settings) : Bool :=
  8 ≤ s.memory && 8 * s.lanes ≤ s.memory && 1 ≤ s.passes && 1 ≤ s.lanes && s.lanes < 0x1000000

/-- The parameters of a kept hash whose hash has `width` bytes. -/
def params? (p : Phc) (width : Nat) : Option Argon2.Params := do
  let s ← p.parameters.foldlM Settings.apply {}
  let variant ← variants.lookup p.algorithm
  let version := p.version.getD 19
  if s.isValid && (version = 16 || version = 19) then
    some ⟨variant, version, s.memory, s.passes, s.lanes, width, s.data⟩
  else none

/-- A salt has 8 bytes or more. -/
def saltBytes? (salt : String) : Option Bytes :=
  (Base64.decode? .standard salt.toList).filter fun bytes => 8 ≤ bytes.length

/-- Checks a password against the fields of a kept hash. -/
def verify (password : String) (p : Phc) : Except PasswordError Unit :=
  match p.salt, p.hash with
  | some salt, some expected =>
    match params? p expected.length, saltBytes? salt with
    | some params, some salt =>
      if Argon2.hash params (utf8 password) salt = expected then .ok () else .error .mismatch
    | _, _ => .error .hashing
  | _, _ => .error .mismatch

end Argon2Phc

namespace WorkFactor

/-- A work factor has at least 8 KiB and one pass. -/
def make (memory passes : Nat) : Except PasswordError WorkFactor :=
  if 8 ≤ memory && 1 ≤ passes then .ok ⟨memory, passes⟩ else .error .hashing

/-- The fields of the hash of a password. -/
def phc (w : WorkFactor) (salt : Bytes) (password : String) : Phc where
  algorithm := "argon2id"
  version := some 19
  parameters := [("m", toString w.memory), ("t", toString w.passes), ("p", "1")]
  salt := some (String.ofList (Base64.encode .standard salt))
  hash := some (Argon2.hash ⟨.hybrid, 19, w.memory, w.passes, 1, 32, []⟩ (utf8 password) salt)

end WorkFactor

/-- Hashes with Argon2id, version 19, in one lane. -/
def PasswordHasher.argon2 (w : WorkFactor) : PasswordHasher where
  hash salt password := .ok (String.ofList (w.phc salt password).chars)
  verify password stored :=
    match Phc.parse? stored with
    | some p => Argon2Phc.verify password p
    | none => .error .malformed

end AccountServer
