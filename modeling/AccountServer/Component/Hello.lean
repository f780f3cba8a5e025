import AccountServer.Config.Basic
import AccountServer.Number.Shortest

/-!
# Settings and answers of the hello component

`rudeness` is the probability with which the component picks the rude greeting when it may pick.
-/

namespace AccountServer

open Json

/-- The settings of the component. -/
structure HelloSettings where
  rudeness : Binary64 := .ofRatio false 1 2
  nice : String := "Hello, nice to meet you!"
  rude : String := "What do you want?"

namespace HelloSettings

def decode : Decoder HelloSettings :=
  let standard : HelloSettings := {}
  Fields.decode
    (HelloSettings.mk <$> .withDefault "rudeness" decodeFloat standard.rudeness
      <*> .withDefault "nice" decodeString standard.nice
      <*> .withDefault "rude" decodeString standard.rude)

/-- The rudeness has to be a probability. -/
def validate (s : HelloSettings) : Except ConfigError Unit :=
  if PartialCompare.atLeast s.rudeness (.zero false) &&
      PartialCompare.atMost s.rudeness (.ofInt 1) then .ok ()
  else .error (.invalid (.rudeness s.rudeness.toText))

/-- The greeting that 64 random bits pick. -/
def pick (s : HelloSettings) (random : UInt64) : String :=
  let (m, q) := s.rudeness.parts
  let scaled := if 0 ≤ q + 64 then m <<< (q + 64).toNat else m >>> (-(q + 64)).toNat
  if random.toNat < scaled then s.rude else s.nice

end HelloSettings

/-- A greeting. -/
structure Greeting where
  message : String
  deriving DecidableEq, Repr

namespace Greeting

def toJson (g : Greeting) : Json := .object [("message", .string g.message)]

def decode : Decoder Greeting :=
  Fields.decode (Greeting.mk <$> .required "message" decodeString)

end Greeting

end AccountServer
