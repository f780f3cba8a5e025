import AccountServer.Text.Alphanumeric
import AccountServer.Text.Blank
import AccountServer.Text.Split

/-!
# Log directives

A filter of the log is a list of directives with commas between them. A directive is a level, a
target, or `target[span{field=value}]=level`, any part of which but the first may be missing.
`isFilter` decides whether a text is such a list.

The reader of a directive passes over the text without the blanks around it, but cuts the level
out of the text as it was written. So a blank in front of `target=level` or behind it spoils the
level, while a level or target alone may have blanks around it.
-/

namespace AccountServer.Log

/-- The names of the levels, in lower case. -/
def levelNames : List String := ["off", "error", "warn", "info", "debug", "trace"]

/-- Whether a text is a level: a name in any case, a number up to 5, or nothing. -/
def isLevel (cs : List Char) : Bool :=
  let text := String.ofList cs
  let digits := match cs with
    | '+' :: rest => rest
    | _ => cs
  let isNumber := !digits.isEmpty && digits.all Char.isDigit &&
    digits.foldl (fun n d => n * 10 + (d.toNat - 0x30)) 0 ≤ 5
  cs.isEmpty || isNumber || levelNames.contains (Text.lowerAscii text)

/-- Which part of a directive is being read. -/
inductive Part where
  | start
  /-- A level or a target; without `=` or `[` it cannot be told. -/
  | name
  | span
  /-- A field; whether it has any text yet. -/
  | field (filled : Bool)
  /-- Behind the braces. -/
  | fields
  /-- Behind the brackets. -/
  | target
  /-- A level, which begins at this place. -/
  | level (place : Nat)
  deriving DecidableEq, Repr

/-- Whether a directive may begin with the character. -/
def mayBegin (c : Char) : Bool := c == '-' || c == ':' || c == '_' || Text.isAlphanumeric c

/-- The part that the character at a place leads to; `none` where it does not belong. -/
def Part.next (part : Part) (place : Nat) (c : Char) : Option Part :=
  match part with
  | .start => if c = '[' then some .span else if mayBegin c then some .name else none
  | .name => some (if c = '=' then .level (place + 1) else if c = '[' then .span else .name)
  | .span => some (if c = ']' then .target else if c = '{' then .field false else .span)
  | .field filled =>
    if c = '}' then if filled then some .fields else none else some (.field true)
  | .fields => if c = ']' then some .target else none
  | .target => if c = '=' then some (.level (place + 1)) else none
  | .level begun => some (.level begun)

/-- The part in which the text ends, read from a place on. -/
def Part.run (part : Part) (place : Nat) : List Char → Option Part
  | [] => some part
  | c :: rest => (part.next place c).bind fun next => next.run (place + 1) rest

/-- Whether a text is one directive. -/
def isDirective (cs : List Char) : Bool :=
  match Part.run .start 0 (Text.trim cs) with
  | some .name | some .target => true
  | some (.level place) => isLevel (cs.drop place)
  | _ => false

/-- Whether a text is a list of directives. Nothing between two commas is passed over. -/
def isFilter (text : String) : Bool :=
  (Text.splitAll ',' text.toList).all fun piece => piece.isEmpty || isDirective piece

/-- Whether the log can be set up. The setting of the surroundings counts if it is a filter, and
otherwise the level of the configuration. -/
def isUsable (level : String) (surroundings : Option String) : Bool :=
  surroundings.any isFilter || isFilter level

end AccountServer.Log
