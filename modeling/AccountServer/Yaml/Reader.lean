import AccountServer.Yaml.Basic
import AccountServer.Yaml.Scanner

/-!
# Documents

Values are put together from tokens. A text may hold any number of documents, one value each. What
is left out is nothing, and an alias stands for the value that its anchor is at.
-/

namespace AccountServer.Yaml

/-- The values at anchors, the latest first. The value at an anchor is not there yet while it is
being read. -/
abbrev Anchors := List (List Char × Yaml)

/-- A part read: its value, the anchors known then, and the tokens behind it. -/
abbrev Part := Yaml × Anchors × List Token

/-- The anchor and the type of a value. -/
structure Properties where
  anchor : Option (List Char) := none
  tag : Option (List Char × List Char) := none

/-- Reads anchor and type, each at most once and in any order. -/
def properties : List Token → Properties × List Token
  | .anchor a :: .tag h t :: rest => (⟨some a, some (h, t)⟩, rest)
  | .tag h t :: .anchor a :: rest => (⟨some a, some (h, t)⟩, rest)
  | .anchor a :: rest => (⟨some a, none⟩, rest)
  | .tag h t :: rest => (⟨none, some (h, t)⟩, rest)
  | rest => ({}, rest)

/-- The value of a scalar. -/
def scalarValue (p : Properties) (isPlain : Bool) (text : String) : Yaml :=
  match isPlain, p.tag with
  | false, _ => .string text
  | true, none => .ofPlain text
  | true, some (handle, type) =>
    if handle = ['!', '!'] then .ofTyped (String.ofList type) text else .string text

/-- Whether one of these tokens comes next, or none at all. -/
def comes (stops : List Token) : List Token → Bool
  | [] => true
  | t :: _ => stops.contains t

/-- A value of which only the properties are there. -/
def empty (p : Properties) (anchors : Anchors) (ts : List Token) : Option Part :=
  match p.anchor, p.tag with
  | none, none => none
  | _, _ => some (scalarValue p true "", anchors, ts)

mutual

/-- Reads a value. In a block it may be a list without indentation if `indentless`. -/
def node : Nat → Bool → Bool → Anchors → List Token → Option Part
  | 0, _, _, _, _ => none
  | fuel + 1, inBlock, indentless, anchors, ts =>
    match ts with
    | .alias name :: rest => do return (← anchors.lookup name, anchors, rest)
    | _ => do
      let (p, rest) := properties ts
      let before := match p.anchor with
        | some a => (a, .null) :: anchors
        | none => anchors
      let (value, after, rest) ← content fuel inBlock indentless p before rest
      match p.anchor with
      | some a => return (value, (a, value) :: after, rest)
      | none => return (value, after, rest)

/-- Reads a value behind its properties. -/
def content : Nat → Bool → Bool → Properties → Anchors → List Token → Option Part
  | 0, _, _, _, _, _ => none
  | fuel + 1, inBlock, indentless, p, anchors, ts =>
    match ts with
    | .scalar isPlain text :: rest => some (scalarValue p isPlain text, anchors, rest)
    | .flowSequenceStart :: rest => flowItems fuel true [] anchors rest
    | .flowMappingStart :: rest => flowMembers fuel true [] anchors rest
    | .entry :: rest =>
      if indentless then blockItems fuel false [] anchors (.entry :: rest) else empty p anchors ts
    | .blockSequenceStart :: rest =>
      if inBlock then blockItems fuel true [] anchors rest else empty p anchors ts
    | .blockMappingStart :: rest =>
      if inBlock then blockMembers fuel [] anchors rest else empty p anchors ts
    | _ => empty p anchors ts

/-- Reads a value, which is nothing if one of these tokens comes next. -/
def orNull : Nat → Bool → Bool → List Token → Anchors → List Token → Option Part
  | 0, _, _, _, _, _ => none
  | fuel + 1, inBlock, indentless, stops, anchors, ts =>
    if comes stops ts then some (.null, anchors, ts)
    else node fuel inBlock indentless anchors ts

/-- Reads the items of a list in a block, which is indented if `indented`. -/
def blockItems : Nat → Bool → List Yaml → Anchors → List Token → Option Part
  | 0, _, _, _, _ => none
  | fuel + 1, indented, done, anchors, ts =>
    match ts with
    | .entry :: rest => do
      let stops : List Token := if indented then [.entry, .blockEnd] else
        [.entry, .key, .value, .blockEnd]
      let (item, anchors, rest) ← orNull fuel true false stops anchors rest
      blockItems fuel indented (item :: done) anchors rest
    | _ =>
      if indented then
        match ts with
        | .blockEnd :: rest => some (.sequence done.reverse, anchors, rest)
        | _ => none
      else some (.sequence done.reverse, anchors, ts)

/-- Reads the members of a mapping in a block. -/
def blockMembers : Nat → List (Yaml × Yaml) → Anchors → List Token → Option Part
  | 0, _, _, _ => none
  | fuel + 1, done, anchors, ts =>
    let stops : List Token := [.key, .value, .blockEnd]
    match ts with
    | .blockEnd :: rest => some (.mapping done, anchors, rest)
    | .key :: rest => do
      let (key, anchors, rest) ← orNull fuel true true stops anchors rest
      let (value, anchors, rest) ← memberValue fuel true stops anchors rest
      blockMembers fuel (insert done key value) anchors rest
    | .value :: _ => do
      let (value, anchors, rest) ← memberValue fuel true stops anchors ts
      blockMembers fuel (insert done .null value) anchors rest
    | _ => none

/-- Reads the value of a member, which is nothing if there is no colon. -/
def memberValue : Nat → Bool → List Token → Anchors → List Token → Option Part
  | 0, _, _, _, _ => none
  | fuel + 1, inBlock, stops, anchors, ts =>
    match ts with
    | .value :: rest => orNull fuel inBlock inBlock stops anchors rest
    | _ => some (.null, anchors, ts)

/-- Reads the items of a list in brackets. A pair among them is a mapping of its own. -/
def flowItems : Nat → Bool → List Yaml → Anchors → List Token → Option Part
  | 0, _, _, _, _ => none
  | fuel + 1, first, done, anchors, ts =>
    match ts with
    | .flowSequenceEnd :: rest => some (.sequence done.reverse, anchors, rest)
    | _ => do
      let ts ← match first, ts with
        | true, ts => some ts
        | false, .comma :: rest => some rest
        | false, _ => none
      match ts with
      | .flowSequenceEnd :: rest => return (.sequence done.reverse, anchors, rest)
      | .key :: rest =>
        let stops : List Token := [.comma, .flowSequenceEnd]
        let (key, anchors, rest) ← orNull fuel false false (.value :: stops) anchors rest
        let (value, anchors, rest) ← memberValue fuel false stops anchors rest
        flowItems fuel false (.mapping [(key, value)] :: done) anchors rest
      | _ =>
        let (item, anchors, rest) ← node fuel false false anchors ts
        flowItems fuel false (item :: done) anchors rest

/-- Reads the members of a mapping in braces. -/
def flowMembers : Nat → Bool → List (Yaml × Yaml) → Anchors → List Token → Option Part
  | 0, _, _, _, _ => none
  | fuel + 1, first, done, anchors, ts =>
    match ts with
    | .flowMappingEnd :: rest => some (.mapping done, anchors, rest)
    | _ => do
      let ts ← match first, ts with
        | true, ts => some ts
        | false, .comma :: rest => some rest
        | false, _ => none
      let stops : List Token := [.comma, .flowMappingEnd]
      match ts with
      | .flowMappingEnd :: rest => return (.mapping done, anchors, rest)
      | .key :: rest =>
        let (key, anchors, rest) ← orNull fuel false false (.value :: stops) anchors rest
        let (value, anchors, rest) ← memberValue fuel false stops anchors rest
        flowMembers fuel false (insert done key value) anchors rest
      | .value :: _ =>
        let (value, anchors, rest) ← memberValue fuel false stops anchors ts
        flowMembers fuel false (insert done .null value) anchors rest
      | _ =>
        let (key, anchors, rest) ← node fuel false false anchors ts
        flowMembers fuel false (insert done key .null) anchors rest

end

/-- Reads the documents of a text. Only the first one needs no mark in front. -/
def documents : Nat → Bool → List Token → Option (List Yaml)
  | 0, _, _ => none
  | fuel + 1, first, ts =>
    let ts := if first then ts else ts.dropWhile (· = .documentEnd)
    let value (ts : List Token) : Option (List Yaml) := do
      let (value, _, rest) ←
        orNull fuel true false [.directive, .documentStart, .documentEnd] [] ts
      let rest := if rest.head? = some .documentEnd then rest.drop 1 else rest
      return value :: (← documents fuel false rest)
    match ts with
    | [] => some []
    | .directive :: _ | .documentStart :: _ =>
      match ts.dropWhile (· = .directive) with
      | .documentStart :: rest => value rest
      | _ => none
    | _ => if first then value ts else none

/-- The documents of a text. -/
def read? (text : String) : Option (List Yaml) := do
  let ts ← tokens? text
  documents (4 * ts.length + 8) true ts

end AccountServer.Yaml
