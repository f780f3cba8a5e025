import AccountServer.Account.Payload
import AccountServer.Proofs.Json.Records
import AccountServer.Proofs.Json.Values
import AccountServer.Proofs.Store.Row

/-!
# What clients are sent about accounts

`User.ShownBy` says, member by member, what a client is shown of a user. `User.shownBy_summary` says
that this is what a summary is written as, and `User.ShownBy.decode` that a client reads the user
off it, all but the password hash. The answer to a login reads back as well.
-/

namespace AccountServer

/-! ## Users -/

namespace User

/-- The names of the members of an entry, in the order in which they are written. -/
def shownNames : List String :=
  ["id", "username", "email", "role", "created", "modified", "last_login", "last_logout"]

/-- These members show the user: each value stands under its name, there is no member for a value
that is missing, and there is nothing else. -/
structure ShownIn (u : User) (members : List (String × Json)) : Prop where
  names : (members.map Prod.fst).Sublist shownNames
  id : members.lookup "id" = some (.string u.id.toText)
  username : members.lookup "username" = some (.string u.username)
  email : members.lookup "email" = u.email.map .string
  role : members.lookup "role" = some (.string u.role.name)
  created : members.lookup "created" = some (.string u.created.toText)
  modified : members.lookup "modified" = some (.string u.modified.toText)
  lastLogin : members.lookup "last_login" = u.lastLogin.map (.string ·.toText)
  lastLogout : members.lookup "last_logout" = u.lastLogout.map (.string ·.toText)

/-- The entry is an object whose members show the user. -/
def ShownBy (u : User) (entry : Json) : Prop :=
  ∃ members, entry = .object members ∧ u.ShownIn members

/-- A summary shows the user whom it is made of. -/
theorem shownBy_summary (u : User) : u.ShownBy u.summary.toJson := by
  -- Optional times are written by this function as it stands, without an argument.
  have htime : Instant.toJson = fun t => .string t.toText := rfl
  refine ⟨_, rfl, ⟨?names, ?_, ?_, ?_, ?_, ?_, ?_, ?_, ?_⟩⟩
  case names =>
    simp only [List.map_append]
    exact ((((List.Sublist.refl ["id", "username"]).append (Json.names_present ..)).append
      (List.Sublist.refl ["role", "created", "modified"])).append
      (Json.names_present ..)).append (Json.names_present ..)
  all_goals
    simp [List.lookup_cons, List.lookup_append, Json.lookup_present, summary, Uuid.toJson,
      Role.toJson, htime]

/-- A client reads the user off an entry, all but the password hash. -/
theorem ShownBy.decode {u : User} {entry : Json} (h : u.ShownBy entry)
    (hcivil : u.TimesAll Instant.Civil) :
    UserSummary.decode entry = .ok
      { id := u.id, username := u.username, email := u.email, role := u.role,
        created := u.created, modified := u.modified, lastLogin := u.lastLogin,
        lastLogout := u.lastLogout } := by
  obtain ⟨members, rfl, h⟩ := h
  have hid := Json.Fields.reads_required h.id u.id.decode_toJson
  have husername : (Json.Fields.required "username" Json.decodeString).Reads members u.username :=
    Json.Fields.reads_required h.username rfl
  have hemail : (Json.Fields.optional "email" Json.decodeString).Reads members u.email :=
    Json.Fields.reads_optional h.email nofun fun _ _ => rfl
  have hrole := Json.Fields.reads_required h.role u.role.decode_toJson
  have hcreated := Json.Fields.reads_required h.created (Instant.decode_toJson hcivil.created)
  have hmodified := Json.Fields.reads_required h.modified (Instant.decode_toJson hcivil.modified)
  have hlastLogin : (Json.Fields.optional "last_login" Instant.decode).Reads members u.lastLogin :=
    Json.Fields.reads_optional h.lastLogin nofun fun t ht =>
      Instant.decode_toJson (hcivil.lastLogin t ht)
  have hlastLogout :
      (Json.Fields.optional "last_logout" Instant.decode).Reads members u.lastLogout :=
    Json.Fields.reads_optional h.lastLogout nofun fun t ht =>
      Instant.decode_toJson (hcivil.lastLogout t ht)
  have hreads := (((((((hid.map UserSummary.mk).both husername).both hemail).both hrole).both
    hcreated).both hmodified).both hlastLogin).both hlastLogout
  exact hreads.decode (h.names.nodup (by decide)) h.names.subset

end User

/-! ## Tokens -/

/-- The answer to a login reads back as whom the token was issued to and the token. -/
theorem IssuedToken.decode_toJson (t : IssuedToken) : decode t.toJson = .ok t := by
  let members := [("user_id", t.userId.toJson), ("token", .string t.token)]
  have huser : (Json.Fields.required "user_id" Uuid.decode).Reads members t.userId :=
    Json.Fields.reads_required rfl t.userId.decode_toJson
  have htoken : (Json.Fields.required "token" Json.decodeString).Reads members t.token :=
    Json.Fields.reads_required rfl rfl
  have hreads := (huser.map IssuedToken.mk).both htoken
  exact hreads.decode (show ["user_id", "token"].Nodup by decide)
    (List.Subset.refl ["user_id", "token"])

end AccountServer
