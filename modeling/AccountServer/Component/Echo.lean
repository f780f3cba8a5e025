import AccountServer.Json.Decode

/-!
# Messages of the echo component
-/

namespace AccountServer

open Json

/-- A message to be sent back. -/
structure EchoRequest where
  message : String
  deriving DecidableEq, Repr

def EchoRequest.decode : Decoder EchoRequest :=
  Fields.decode (EchoRequest.mk <$> .required "message" decodeString)

/-- The message, and who sent it if that is known. -/
structure EchoResponse where
  message : String
  requester : Option String
  deriving DecidableEq, Repr

namespace EchoResponse

def toJson (r : EchoResponse) : Json :=
  .object (("message", .string r.message) ::
    match r.requester with
    | some name => [("requester", .string name)]
    | none => [])

def decode : Decoder EchoResponse :=
  Fields.decode
    (EchoResponse.mk <$> .required "message" decodeString
      <*> .optional "requester" decodeString)

end EchoResponse

end AccountServer
