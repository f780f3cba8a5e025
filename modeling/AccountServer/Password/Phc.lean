import AccountServer.Crypto.Base64
import AccountServer.Text.Split

/-!
# The PHC string format

A password hash as a text: `$algorithm$v=19$m=8,t=1,p=1$salt$hash`. All fields behind the
algorithm may be missing, but salt and hash only from the end on. `Phc.parse?` checks the letters
and the lengths of the fields; what the parameters mean is for the algorithm to say.
-/

namespace AccountServer

/-- The fields of a password hash. -/
structure Phc where
  algorithm : String
  version : Option Nat
  parameters : List (String × String)
  /-- In base 64. -/
  salt : Option String
  hash : Option Crypto.Bytes
  deriving DecidableEq

namespace Phc

/-- Letters of a name. -/
def isNameChar (c : Char) : Bool := c.isLower || c.isDigit || c == '-'

/-- Letters of a value. -/
def isValueChar (c : Char) : Bool :=
  c.isAlphanum || c == '/' || c == '+' || c == '.' || c == '-'

/-- A name has 1 to 32 letters. -/
def isName (cs : List Char) : Bool := !cs.isEmpty && cs.length ≤ 32 && cs.all isNameChar

/-- A value has at most 64 letters. -/
def isValue (cs : List Char) : Bool := cs.length ≤ 64 && cs.all isValueChar

/-- A decimal number of 32 bits without zeros in front. -/
def decimal? (cs : List Char) : Option Nat :=
  if cs.isEmpty || !cs.all Char.isDigit || (cs.head? = some '0' && 1 < cs.length) then none
  else
    let n := cs.foldl (fun n d => n * 10 + (d.toNat - 0x30)) 0
    if n < UInt32.size then some n else none

/-- One `name=value`. -/
def parameter? (cs : List Char) : Option (String × String) :=
  match Text.splitAll '=' cs with
  | [name, value] =>
    if isName name && isValue value then some (String.ofList name, String.ofList value) else none
  | _ => none

/-- Parameters with commas between them, at most 127 bytes. -/
def parameters? (cs : List Char) : Option (List (String × String)) :=
  if 127 < (String.ofList cs).utf8ByteSize then none
  else (Text.splitAll ',' cs).mapM parameter?

/-- A salt is a value of 4 letters or more. -/
def salt? (cs : List Char) : Option String :=
  if 4 ≤ cs.length && isValue cs then some (String.ofList cs) else none

/-- A hash has 10 to 64 bytes. -/
def hash? (cs : List Char) : Option Crypto.Bytes :=
  match Crypto.Base64.decode? .standard cs with
  | some bytes => if 10 ≤ bytes.length && bytes.length ≤ 64 then some bytes else none
  | none => none

/-- Takes the version off the fields, if the first one is a version. -/
def takeVersion (fields : List (List Char)) : Option (Option Nat × List (List Char)) :=
  match fields with
  | ('v' :: '=' :: number) :: rest =>
    if number.contains ',' then some (none, fields)
    else if isValue number then (decimal? number).map fun n => (some n, rest)
    else none
  | _ => some (none, fields)

/-- Takes the parameters off the fields, if the first one holds any. -/
def takeParameters (fields : List (List Char)) :
    Option (List (String × String) × List (List Char)) :=
  match fields with
  | field :: rest =>
    if field.contains '=' then (parameters? field).map fun ps => (ps, rest) else some ([], fields)
  | [] => some ([], [])

/-- Reads the salt and the hash, behind which there is nothing. -/
def takeRest (fields : List (List Char)) : Option (Option String × Option Crypto.Bytes) :=
  match fields with
  | [] => some (none, none)
  | [salt] => do return (some (← salt? salt), none)
  | [salt, hash] => do return (some (← salt? salt), some (← hash? hash))
  | _ => none

/-- Reads a password hash. -/
def parse? (text : String) : Option Phc :=
  match Text.splitAll '$' text.toList with
  | [] :: algorithm :: fields => do
    if !isName algorithm then none
    let (version, fields) ← takeVersion fields
    let (parameters, fields) ← takeParameters fields
    let (salt, hash) ← takeRest fields
    return ⟨String.ofList algorithm, version, parameters, salt, hash⟩
  | _ => none

/-- The text of a password hash. -/
def chars (p : Phc) : List Char :=
  '$' :: (p.algorithm.toList ++
    (match p.version with
      | some v => '$' :: 'v' :: '=' :: (toString v).toList
      | none => []) ++
    (match p.parameters.map fun (name, value) => name ++ "=" ++ value with
      | [] => []
      | ps => '$' :: (",".intercalate ps).toList) ++
    (match p.salt with
      | some s => '$' :: s.toList
      | none => []) ++
    (match p.hash with
      | some h => '$' :: Crypto.Base64.encode .standard h
      | none => []))

end Phc

end AccountServer
