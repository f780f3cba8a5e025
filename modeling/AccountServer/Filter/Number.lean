import AccountServer.Filter.Codec
import AccountServer.Number.Word

/-!
# Conditions on whole numbers

The plainest records that filters can be tried on: a whole number is its own index.
-/

namespace AccountServer

/-- What can be asked of a whole number. -/
structure NumberCondition where
  value : Option (Criterion Int)
  even : Option Bool
  deriving DecidableEq, Repr

namespace NumberCondition

def holds (w : NumberCondition) (n : Int) : Bool :=
  (match w.value with
    | some c => c.accepts n
    | none => true) &&
  (match w.even with
    | some even => (n % 2 == 0) == even
    | none => true)

def limits (w : NumberCondition) : Limits Int :=
  match w.value with
  | some c => c.limits
  | none => .unbounded

instance : Condition NumberCondition Int Int := ⟨holds, limits⟩

/-- A whole number of 64 bits. -/
def decodeNumber : Json.Decoder Int := Json.decodeInt Word.minInt64 Word.maxInt64

def toJson (w : NumberCondition) : Json :=
  .object [("value", .ofOption (·.toJson .int) w.value), ("even", .ofOption .bool w.even)]

def decode : Json.Decoder NumberCondition :=
  Json.Fields.decode
    (NumberCondition.mk <$> .optional "value" (Criterion.decode decodeNumber)
      <*> .optional "even" Json.decodeBool)

end NumberCondition

end AccountServer
