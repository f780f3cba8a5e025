import AccountServer.Text.Blank
import AccountServer.Text.Split

/-!
# Media types

A media type is `type/subtype`, in any case, with parameters `name=value` behind it, each after a
semicolon. The subtype may end in a suffix such as `+json`. `isJson` decides whether a text is a
media type that promises JSON.
-/

namespace AccountServer.MediaType

/-- The characters that names are made of. -/
def isToken (c : Char) : Bool := c.isAlphanum || "!#$%&'*+-.^_`|~".toList.contains c

/-- Whether a quoted value may hold the character. -/
def isQuoted (c : Char) : Bool := c != '"' && (c == '\t' || (0x20 ≤ c.toNat && c.toNat < 0x7F))

/-- Passes over a value behind an equals sign, up to and with the semicolon that ends it. -/
def skipValue : List Char → Option (List Char)
  | '"' :: rest =>
    match (rest.dropWhile isQuoted), (rest.takeWhile isQuoted).isEmpty with
    | '"' :: rest, false =>
      match rest.dropWhile (· == ' ') with
      | [] => some []
      | ';' :: rest => some rest
      | _ => none
    | _, _ => none
  | cs =>
    match cs.dropWhile isToken, (cs.takeWhile isToken).isEmpty with
    | [], _ => some []
    | ';' :: rest, false => some rest
    | _, _ => none

/-- Whether a text is a list of parameters. Each takes two characters at least, so `fuel` need not
exceed the length of the text. -/
def areParameters : Nat → List Char → Bool
  | 0, cs => cs.isEmpty
  | fuel + 1, cs =>
    match cs.dropWhile (· == ' ') with
    | [] => true
    | cs =>
      match cs.dropWhile isToken, (cs.takeWhile isToken).isEmpty with
      | '=' :: rest, false => (skipValue rest).any (areParameters fuel)
      | _, _ => false

/-- Whether the main type and subtype are those of JSON, in lower case. A plus sign at the beginning
of a subtype is part of its name. -/
def promisesJson (main sub : List Char) : Bool :=
  String.ofList main == "application" &&
    match Text.splitLast '+' sub with
    | some ([], _) => false
    | some (name, suffix) => String.ofList name == "json" || String.ofList suffix == "json"
    | none => String.ofList sub == "json"

/-- Whether a text is a media type of JSON. -/
def isJson (text : String) : Bool :=
  let cs := (Text.lowerAscii text).toList
  let main := cs.takeWhile fun c => isToken c
  match cs.drop main.length with
  | '/' :: rest =>
    let sub := rest.takeWhile isToken
    promisesJson main sub &&
      match rest.drop sub.length with
      | [] => true
      | ';' :: rest => areParameters (rest.length + 1) rest
      | _ => false
  | _ => false

end AccountServer.MediaType
