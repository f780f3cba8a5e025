import AccountServer.Store.Basic

/-!
# Plans

What the server does for a client is a `Plan`: a sequence of questions, each of which depends on
the answers before it, and at the end a result. A question is a call to the store, a look at the
clock, or a request for random bits, and is answered at one stroke. So a plan shows where other
clients may come in between, and the same plan can be run alone (`run`) or one question at a time
(`step`).
-/

namespace AccountServer

/-- What a plan asks for. -/
inductive Question where
  | store (call : StoreCall)
  | clock
  /-- Bytes to hash a password with. -/
  | salt
  /-- 64 random bits. -/
  | random

/-- What a question is answered with. -/
abbrev Question.Answer : Question → Type
  | .store call => call.Answer
  | .clock => Instant
  | .salt => List UInt8
  | .random => UInt64

/-- Answers a question. Only calls to the store can change anything. -/
def Question.answer {σ : Type} [AccountStore σ] (q : Question) (around : Surroundings)
    (state : σ) : q.Answer × σ :=
  match q with
  | .store call => AccountStore.perform call around state
  | .clock => (around.now, state)
  | .salt => (around.salt, state)
  | .random => (around.random, state)

/-- A sequence of questions with a result of type `α` or a failure of type `ε`. -/
inductive Plan (ε α : Type) where
  | done (result : Except ε α)
  | ask (question : Question) (next : question.Answer → Plan ε α)

namespace Plan

variable {ε α β : Type}

/-- Goes on with the result, unless there was a failure. -/
def bind (p : Plan ε α) (f : α → Plan ε β) : Plan ε β :=
  match p with
  | .done (.ok a) => f a
  | .done (.error e) => .done (.error e)
  | .ask q next => .ask q fun answer => (next answer).bind f

instance : Monad (Plan ε) where
  pure a := .done (.ok a)
  bind := bind

/-- Goes on with the failure, if there was one. -/
def recover (p : Plan ε α) (f : ε → Plan ε α) : Plan ε α :=
  match p with
  | .done (.ok a) => .done (.ok a)
  | .done (.error e) => f e
  | .ask q next => .ask q fun answer => (next answer).recover f

instance : MonadExceptOf ε (Plan ε) where
  throw e := .done (.error e)
  tryCatch := recover

/-- The result that is there already. -/
def ofExcept (r : Except ε α) : Plan ε α := .done r

/-- Puts the result or the failure in other words. -/
def mapResult {ε' : Type} (f : Except ε α → Except ε' β) : Plan ε α → Plan ε' β
  | .done r => .done (f r)
  | .ask q next => .ask q fun answer => (next answer).mapResult f

/-- Puts the failure in other words. -/
def mapError {ε' : Type} (f : ε → ε') (p : Plan ε α) : Plan ε' α := p.mapResult (·.mapError f)

/-- A plan that cannot fail, with the result or the failure as its result. -/
def attempt {ε' : Type} (p : Plan ε α) : Plan ε' (Except ε α) := p.mapResult .ok

/-- Asks one question. -/
def question (q : Question) : Plan ε q.Answer := .ask q fun answer => .done (.ok answer)

/-- The time. -/
def clock : Plan ε Instant := question .clock

/-- Calls the store. -/
def call (c : StoreCall) : Plan ε c.Answer := question (.store c)

/-! ## Running -/

variable {σ : Type} [AccountStore σ]

/-- Answers all questions of a plan, one after the other, in the surroundings of the moment. -/
def run (p : Plan ε α) (around : Nat → Surroundings) (state : σ) : Except ε α × σ :=
  match p with
  | .done r => (r, state)
  | .ask q next =>
    let (answer, state') := q.answer (around 0) state
    (next answer).run (fun n => around (n + 1)) state'

/-- Answers the next question of a plan; a plan that is done stays as it is. -/
def step (p : Plan ε α) (around : Surroundings) (state : σ) : Plan ε α × σ :=
  match p with
  | .done r => (.done r, state)
  | .ask q next =>
    let (answer, state') := q.answer around state
    (next answer, state')

/-- The result, if the plan is done. -/
def result? : Plan ε α → Option (Except ε α)
  | .done r => some r
  | .ask .. => none

end Plan

end AccountServer
