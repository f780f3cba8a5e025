import AccountServer.Text.Split

/-!
# Path patterns

A pattern is a path in which `:name` stands for any text that is not empty and has no slash. A
parameter ends at the next slash, so there is at most one in each part of a path.

Of two patterns that match a path, the one is preferred that has a letter where the other has a
parameter, at the first place where they differ.
-/

namespace AccountServer

/-- A piece of a pattern. -/
inductive PathPiece where
  | letter (c : Char)
  | parameter (name : List Char)
  deriving DecidableEq, Repr

/-- A path with parameters. -/
abbrev PathPattern := List PathPiece

namespace PathPattern

/-- Reads a pattern. There is none if a parameter has no name, if two stand in one part of the path,
or if there is an asterisk. -/
def parse? : List Char → Option PathPattern
  | [] => some []
  | c :: rest =>
    if c = '*' then none
    else if c = ':' then do
      let name := rest.takeWhile (· != '/')
      if name.isEmpty || name.contains ':' || name.contains '*' then none
      else return .parameter name :: (← parse? (rest.drop name.length))
    else do return .letter c :: (← parse? rest)
  termination_by cs => cs.length
  decreasing_by all_goals (simp_wf; try omega)

/-- The values of the parameters, if the pattern matches the path. -/
def match? : PathPattern → List Char → Option (List (List Char))
  | [], [] => some []
  | [], _ :: _ => none
  | .letter _ :: _, [] => none
  | .letter c :: pattern, d :: path => if c = d then match? pattern path else none
  | .parameter _ :: pattern, path =>
    let value := path.takeWhile (· != '/')
    if value.isEmpty then none
    else (match? pattern (path.drop value.length)).map (value :: ·)

/-- Whether two patterns match the same paths: they differ in the names of parameters at most. -/
def sameShape : PathPattern → PathPattern → Bool
  | [], [] => true
  | .letter c :: p, .letter d :: q => c = d && sameShape p q
  | .parameter _ :: p, .parameter _ :: q => sameShape p q
  | _, _ => false

/-- Whether the first pattern is preferred to the second where both match. -/
def preferred : PathPattern → PathPattern → Bool
  | .letter _ :: _, .parameter _ :: _ => true
  | .letter _ :: p, .letter _ :: q | .parameter _ :: p, .parameter _ :: q => preferred p q
  | _, _ => false

end PathPattern

end AccountServer
