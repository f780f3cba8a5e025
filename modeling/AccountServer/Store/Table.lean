import AccountServer.Number.Numeral
import AccountServer.Number.Word
import AccountServer.Store.Basic

/-!
# The store in an SQLite table

A row of the table has a cell for each field of a user. Cells have types of their own, and a row
that was written by someone else need not stand for a user; `Row.decode` says what is wrong with
one. Identifiers are kept as hyphenated text, roles as numbers, and times as microseconds.

The table keeps identifiers and usernames unique and some columns filled. A column has an affinity,
by which it converts what is put into it.
-/

namespace AccountServer

/-- A value in a table. -/
inductive Cell where
  | null
  | integer (value : Int)
  | text (value : String)
  deriving DecidableEq, Repr

namespace Cell

def ofOption {α : Type} (f : α → Cell) : Option α → Cell
  | some a => f a
  | none => .null

def ofInstant (t : Instant) : Cell := .integer t.micros

/-- The order of cells: nothing, then the numbers, then the texts. -/
def compare : Cell → Cell → Ordering
  | .null, .null => .eq
  | .null, _ => .lt
  | _, .null => .gt
  | .integer a, .integer b => Ord.compare a b
  | .integer _, .text _ => .lt
  | .text _, .integer _ => .gt
  | .text a, .text b => Ord.compare a b

/-- Whether a cell compares as at most another one. -/
def atMost (a b : Cell) : Bool := a.compare b != .gt

/-! ## Reading -/

/-- A number, which has to be there. -/
def toInt : Cell → Except StoreError Int
  | .integer n => .ok n
  | _ => .error (.query .unreadable)

/-- A number or nothing. -/
def toInt? : Cell → Except StoreError (Option Int)
  | .integer n => .ok (some n)
  | .null => .ok none
  | .text _ => .error (.query .unreadable)

/-- A text, which has to be there. -/
def toText : Cell → Except StoreError String
  | .text s => .ok s
  | _ => .error (.query .unreadable)

/-- A text or nothing. -/
def toText? : Cell → Except StoreError (Option String)
  | .text s => .ok (some s)
  | .null => .ok none
  | .integer _ => .error (.query .unreadable)

end Cell

/-- The time that a number of microseconds stands for. -/
def Instant.ofStored (micros : Int) : Except StoreError Instant :=
  match Instant.ofMicros? micros with
  | some t => .ok t
  | none => .error (.invalid (.timestamp micros))

/-- A row of the table of users. -/
structure Row where
  id : Cell
  username : Cell
  passwordHash : Cell
  email : Cell
  role : Cell
  created : Cell
  modified : Cell
  lastLogin : Cell
  lastLogout : Cell
  deriving DecidableEq

namespace Row

/-- The row of a user. -/
def encode (u : User) : Row where
  id := .text u.id.toText
  username := .text u.username
  passwordHash := .text u.passwordHash
  email := .ofOption .text u.email
  role := .integer u.role.value
  created := .ofInstant u.created
  modified := .ofInstant u.modified
  lastLogin := .ofOption .ofInstant u.lastLogin
  lastLogout := .ofOption .ofInstant u.lastLogout

/-- An optional time. -/
def decodeTime? : Option Int → Except StoreError (Option Instant)
  | some n => (Instant.ofStored n).map some
  | none => .ok none

/-- The user of a row. The types of the cells are looked at before most of what they hold. -/
def decode (r : Row) : Except StoreError User := do
  let id ← r.id.toText
  let role ← r.role.toInt
  let created ← r.created.toInt
  let modified ← r.modified.toInt
  let lastLogin ← r.lastLogin.toInt?
  let lastLogout ← r.lastLogout.toInt?
  let uuid ← match Uuid.parse? id with
    | some uuid => pure uuid
    | none => throw (.invalid (.storedId id (.of id)))
  let username ← r.username.toText
  let passwordHash ← r.passwordHash.toText
  let email ← r.email.toText?
  let role ← match Role.ofValue? role with
    | some role => pure role
    | none => throw (.invalid (.unknownRole role))
  let created ← Instant.ofStored created
  let modified ← Instant.ofStored modified
  let lastLogin ← decodeTime? lastLogin
  let lastLogout ← decodeTime? lastLogout
  return ⟨uuid, username, passwordHash, email, role, created, modified, lastLogin, lastLogout⟩

/-- Whether one row comes before another where rows are listed. -/
def precedes (a b : Row) : Bool :=
  match a.created.compare b.created with
  | .lt => true
  | .gt => false
  | .eq => a.id.atMost b.id

end Row

/-- The table of users, and whether there are connections to it. -/
structure TableStore where
  rows : List Row
  isOpen : Bool := true
  deriving DecidableEq

namespace TableStore

def empty : TableStore := { rows := [] }

/-- The rows in the order in which they are listed. -/
def sorted (rows : List Row) : List Row := rows.mergeSort Row.precedes

/-- Refuses to work without connections. -/
def checkOpen (t : TableStore) : Except StoreError Unit :=
  if t.isOpen then .ok () else .error (.ofQuery (.outage .closed))

/-- Refuses a row that has the username or the identifier of another one. -/
def checkUnique (others : List Row) (r : Row) : Except StoreError Unit :=
  if others.any fun other => other.username = r.username then
    .error (.ofQuery (.notUnique (.column "username")))
  else if others.any fun other => other.id = r.id then
    .error (.ofQuery (.notUnique (.column "id")))
  else .ok ()

/-- The row of an identifier. -/
def row? (t : TableStore) (id : Uuid) : Option Row :=
  t.rows.find? fun r => r.id = .text id.toText

/-- The rows of all other identifiers. -/
def without (t : TableStore) (id : Uuid) : List Row :=
  t.rows.filter fun r => r.id ≠ .text id.toText

/-- Inserts a new user. -/
def create (t : TableStore) (around : Surroundings) (u : User) :
    Except StoreError (User × TableStore) := do
  u.checkHash
  t.checkOpen
  let stored :=
    { u with id := around.draws 0, created := around.now, modified := around.now }
  let row := Row.encode stored
  checkUnique t.rows row
  return (stored, { t with rows := row :: t.rows })

def get (t : TableStore) (id : Uuid) : Except StoreError User := do
  t.checkOpen
  match t.row? id with
  | some r => r.decode
  | none => throw (.ofQuery .rowNotFound)

def byUsername (t : TableStore) (username : String) : Except StoreError User := do
  t.checkOpen
  match t.rows.find? fun r => r.username = .text username with
  | some r => r.decode
  | none => throw (.ofQuery .rowNotFound)

def all (t : TableStore) : Except StoreError (List User) := do
  t.checkOpen
  (sorted t.rows).mapM Row.decode

/-- Overwrites the row of an identifier, all but the time of creation. The answer is the table. -/
def overwrite (t : TableStore) (now : Instant) (id : Uuid) (u : User) :
    Except StoreError TableStore := do
  u.checkHash
  t.checkOpen
  match t.row? id with
  | none => throw .notFound
  | some current =>
    let row := { Row.encode { u with modified := now } with created := current.created }
    let others := t.without id
    checkUnique others row
    return { t with rows := row :: others }

/-- Overwrites the row of an identifier and reads it again, under the identifier that it has now. -/
def update (t : TableStore) (around : Surroundings) (id : Uuid) (u : User) :
    Except StoreError User × TableStore :=
  match t.overwrite around.now id u with
  | .ok t' => (t'.get u.id, t')
  | .error e => (.error e, t)

/-- Deletes the row of an identifier. It is gone even if it turns out to be unreadable. -/
def delete (t : TableStore) (id : Uuid) : Except StoreError User × TableStore :=
  match t.checkOpen with
  | .error e => (.error e, t)
  | .ok () =>
    match t.row? id with
    | some r => (r.decode, { t with rows := t.without id })
    | none => (.error .notFound, t)

/-- Whether the time of creation lies in the bounds, which are rounded down to microseconds. -/
def inBounds (limits : Limits Instant) (r : Row) : Bool :=
  (match limits.min with
    | some low => (Cell.ofInstant low).atMost r.created
    | none => true) &&
  (match limits.max with
    | some high => r.created.atMost (.ofInstant high)
    | none => true)

/-- The users that pass a filter. The table is only asked for rows within its bounds. -/
def find (t : TableStore) (filter : UserFilter) : Except StoreError (List User) := do
  let limits := filter.indexLimits
  if limits.isImpossible PartialCompare.greater then return []
  t.checkOpen
  let users ← (sorted (t.rows.filter (inBounds limits))).mapM Row.decode
  return users.filter filter.matches?

/-- Gives up the connections, once. -/
def close (t : TableStore) : Except StoreError Unit × TableStore :=
  if t.isOpen then (.ok (), { t with isOpen := false }) else (.error (.connection .closed), t)

/-- Answers a call. -/
def perform (call : StoreCall) (around : Surroundings) (t : TableStore) :
    call.Answer × TableStore :=
  match call with
  | .create u =>
    match t.create around u with
    | .ok (stored, t') => (.ok stored, t')
    | .error e => (.error e, t)
  | .get id => (t.get id, t)
  | .byUsername username => (t.byUsername username, t)
  | .all => (t.all, t)
  | .update id u => t.update around id u
  | .delete id => t.delete id
  | .find filter => (t.find filter, t)
  | .close => t.close

instance : AccountStore TableStore := ⟨perform⟩

/-! ## The table itself -/

/-- Makes sure that there is a table. -/
def migrate (t : TableStore) : Except StoreError Unit :=
  if t.isOpen then .ok () else .error (.migration Outage.closed.message)

/-- What a column makes of numbers and of texts that look like numbers. -/
inductive Affinity where
  | text
  | integer
  deriving DecidableEq, Repr

/-- A column: how it converts, whether it may be empty, and how its cell is put into a row. -/
structure Column where
  name : String
  affinity : Affinity
  nullable : Bool
  put : Row → Cell → Row

/-- The columns of the table. -/
def columns : List Column :=
  [⟨"id", .text, false, fun r c => { r with id := c }⟩,
   ⟨"username", .text, false, fun r c => { r with username := c }⟩,
   ⟨"password_hash", .text, false, fun r c => { r with passwordHash := c }⟩,
   ⟨"email", .text, true, fun r c => { r with email := c }⟩,
   ⟨"role", .integer, false, fun r c => { r with role := c }⟩,
   ⟨"created", .integer, false, fun r c => { r with created := c }⟩,
   ⟨"modified", .integer, false, fun r c => { r with modified := c }⟩,
   ⟨"last_login", .integer, true, fun r c => { r with lastLogin := c }⟩,
   ⟨"last_logout", .integer, true, fun r c => { r with lastLogout := c }⟩]

/-- Blanks around a number. -/
def isNumberBlank (c : Char) : Bool := c == ' ' || (0x09 ≤ c.toNat && c.toNat ≤ 0x0D)

/-- Characters of numbers with a point or an exponent. -/
def isNumberChar (c : Char) : Bool := c.isDigit || "+-.eE".toList.contains c

/-- The whole number of 64 bits that a text looks like, blanks around it aside. A point and an
exponent do no harm if the number is whole. -/
def wholeNumber? (s : String) : Option Int :=
  let cs := Text.trimEndWhile isNumberBlank (s.toList.dropWhile isNumberBlank)
  match Numeral.integer? 10 Word.minInt64 Word.maxInt64 cs with
  | some n => some n
  | none => do
    let x ← if cs.all isNumberChar then Numeral.real? cs else none
    let n := x.round
    if PartialCompare.same x (.ofInt n) && Word.minInt64 < n && n < Word.maxInt64 then some n
    else none

/-- What a column makes of a cell. -/
def Affinity.convert : Affinity → Cell → Cell
  | .text, .integer n => .text (toString n)
  | .integer, .text s =>
    match wholeNumber? s with
    | some n => .integer n
    | none => .text s
  | _, cell => cell

/-- Writes a cell of the row of an identifier, past all checks but those of the table itself. The
answer is the number of rows, `none` when the table refuses. -/
def poke (t : TableStore) (id : Uuid) (column : Column) (cell : Cell) :
    Option (Nat × TableStore) :=
  if !t.isOpen then none
  else
    match t.row? id with
    | none => some (0, t)
    | some r =>
      let cell := column.affinity.convert cell
      let row := column.put r cell
      let others := t.without id
      if cell = .null && !column.nullable then none
      else
        match checkUnique others row with
        | .ok () => some (1, { t with rows := row :: others })
        | .error _ => none

end TableStore

end AccountServer
