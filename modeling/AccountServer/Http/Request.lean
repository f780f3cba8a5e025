import AccountServer.Http.MediaType
import AccountServer.Http.Response
import AccountServer.Text.Percent

/-!
# Requests

A `Request` holds what the server looks at: the method, the target, two headers and the body. The
functions here take a request apart. What is missing or does not fit is a `Rejection`, which says
how the request is answered.
-/

namespace AccountServer

/-- A request. -/
structure Request where
  method : String
  /-- The path, and the query behind a question mark. -/
  target : String
  authorization : Option String := none
  contentType : Option String := none
  body : String := ""

/-- Why a part of a request cannot be read. -/
inductive Rejection where
  /-- The body is not said to be JSON. -/
  | contentType
  | bodyTooLarge
  | bodyMalformed
  | bodyUnfit
  | query
  /-- A parameter of the path is not UTF-8. -/
  | pathText
  /-- The path has another number of parameters than one. -/
  | pathCount (count : Nat)
  deriving DecidableEq, Repr

/-- The answer to a request with an unreadable part. -/
def Rejection.response : Rejection → Response
  | .contentType => .text 415 "Expected request with `Content-Type: application/json`"
  | .bodyTooLarge => .text 413 "Failed to buffer the request body: length limit exceeded"
  | .bodyMalformed => .text 400 "Failed to parse the request body as JSON"
  | .bodyUnfit => .text 422 "Failed to deserialize the JSON body into the target type"
  | .query => .text 400 "Failed to deserialize query string"
  | .pathText => .text 400 "Invalid URL"
  | .pathCount count =>
    .text 500 ("Wrong number of path arguments for `Path`. Expected 1 but got " ++
      toString count ++ ". Note that multiple parameters must be extracted with a tuple " ++
      "`Path<(_, _)>` or a struct `Path<YourParams>`")

namespace Request

/-- The target without scheme and host in front and without fragment behind. -/
def pathAndQuery (r : Request) : List Char :=
  let cs := r.target.toList.takeWhile (· != '#')
  match cs.dropWhile fun c => c.isAlphanum || c == '+' || c == '-' || c == '.' with
  | ':' :: '/' :: '/' :: rest => rest.dropWhile fun c => c != '/' && c != '?'
  | _ => cs

/-- The path as it is written. -/
def path (r : Request) : List Char :=
  match r.pathAndQuery.takeWhile (· != '?') with
  | [] => ['/']
  | path => path

/-- What stands behind the question mark. -/
def query (r : Request) : String :=
  String.ofList ((r.pathAndQuery.dropWhile (· != '?')).drop 1)

/-- The token that the request presents. The name of the scheme is read in any case, one blank
follows it, and further blanks do not count. -/
def bearer? (r : Request) : Option String := do
  let header ← r.authorization
  let cs := header.toList
  let scheme := cs.take 6
  if cs.all (fun c => c == '\t' || (0x20 ≤ c.toNat && c.toNat < 0x7F)) &&
      Text.lowerAscii (String.ofList scheme) == "bearer" then
    match cs.drop 6 with
    | ' ' :: token => some (String.ofList (Text.trimStart token))
    | _ => none
  else none

/-- The greatest number of bytes that a body may have. -/
def maxBody : Nat := 2097152

/-- Reads the body. What stands behind the value does not count. -/
def json {α : Type} (r : Request) (decode : Json.Decoder α) : Except Rejection α :=
  if !r.contentType.any MediaType.isJson then .error .contentType
  else if maxBody < r.body.utf8ByteSize then .error .bodyTooLarge
  else
    match decode (Json.read r.body).value with
    | .ok a => .ok a
    | .error .malformed => .error .bodyMalformed
    | .error .unfit => .error .bodyUnfit

/-- Reads the query as a record of texts. -/
def queryFields {α : Type} (r : Request) (decode : Json.Decoder α) : Except Rejection α :=
  let members := (Text.formPairs r.query).map fun (name, value) => (name, Json.string value)
  (decode (.object members)).mapError fun _ => .query

end Request

end AccountServer
