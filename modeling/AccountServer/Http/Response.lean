import AccountServer.Account.Error
import AccountServer.Config.Basic

/-!
# Responses

A `Response` is a status, the two headers that clients go by, and a body. Failures are answered
with an object that holds a message and the status; a failure inside the server is answered with a
message that says nothing.
-/

namespace AccountServer

/-- What a response carries. -/
inductive Body where
  | empty
  | json (value : Json)
  | text (text : String)

/-- The answer to a request. -/
structure Response where
  status : Nat
  contentType : Option String := none
  /-- The methods that a path knows, where the method of the request is none of them. -/
  allow : Option String := none
  body : Body := .empty

namespace Response

/-- A response without body. -/
def bare (status : Nat) : Response := { status }

/-- A response with a JSON body. -/
def json (status : Nat) (value : Json) : Response :=
  { status, contentType := some "application/json", body := .json value }

/-- A response with a line of text. -/
def text (status : Nat) (line : String) : Response :=
  { status, contentType := some "text/plain; charset=utf-8", body := .text line }

/-- The answer to a request that failed. -/
def failure (status : Nat) (message : String) : Response :=
  json status (.object [("error", .string message), ("status", .int status)])

end Response

/-- The answer to a request that the account service refused. -/
def AccountError.response (e : AccountError) : Response := .failure e.status e.publicMessage

/-- What is wrong with a request to a component. -/
inductive RequestFault where
  | emptyMessage
  | other (message : String)
  deriving DecidableEq, Repr

def RequestFault.message : RequestFault → String
  | .emptyMessage => "message must not be empty"
  | .other message => message

/-- Why a component did not do what it was asked. -/
inductive ComponentError where
  | badRequest (fault : RequestFault)
  | account (error : AccountError)
  | config (error : ConfigError)
  /-- There is no component behind an enabled section. -/
  | unknown (name : String)
  deriving DecidableEq

namespace ComponentError

def message : ComponentError → String
  | .badRequest fault => "Bad request: " ++ fault.message
  | .account error => error.message
  | .config error => error.message
  | .unknown name => "no component named '" ++ name ++ "'"

def response : ComponentError → Response
  | .badRequest fault => .failure 400 fault.message
  | .account error => error.response
  | .config _ | .unknown _ => .failure 500 "An internal server error occurred"

end ComponentError

end AccountServer
