import AccountServer.Proofs.Crypto.Base64
import AccountServer.Proofs.Json.Roundtrip
import AccountServer.Proofs.Json.Values
import AccountServer.Proofs.Text.Bytes
import AccountServer.Proofs.Text.Split
import AccountServer.Token.Codec

/-!
# Tokens read back

A token that has been issued reads back as what it was made of: its claims on trust
(`unverified_sign`), and its claims with the signature checked (`verify_sign`). What decides the
check is only whether the key signs the message in the same way as the one that it was signed with.
-/

namespace AccountServer

open Crypto Json

namespace Token

/-! ## Parts -/

/-- A part reads back as the value that it holds. -/
theorem readPart_part {α : Type} (decode : Decoder α) {j : Json} (h : Plain maxDepth j) :
    readPart decode (part j) = (decode j).mapError fun _ => .json := by
  rw [readPart, part, Base64.decode?_encode Base64.Alphabet.forUrl_lawful]
  simp only [fromUTF8?_utf8, decodeDocument_text decode h]

theorem point_not_mem_part (j : Json) : '.' ∉ part j := Base64.point_not_mem_encode _

/-- The message that is signed: header and claims. -/
def message (claims : Claims) : List Char := part header ++ '.' :: part claims.toJson

/-- A signed token is taken apart into what it was put together from. -/
theorem ofText?_sign (mac : Mac) (key : Bytes) (claims : Claims) :
    Parts.ofText? (sign mac key claims) =
      some ⟨part header, part claims.toJson, signature mac key (message claims)⟩ := by
  have hsignature : '.' ∉ signature mac key (message claims) := Base64.point_not_mem_encode _
  have hlast := Text.splitLast_append hsignature (message claims)
  have hfirst := Text.splitLast_append (point_not_mem_part claims.toJson) (part header)
  rw [Parts.ofText?, sign, String.toList_ofList]
  show (Text.splitLast '.' (message claims ++ '.' :: signature mac key (message claims)) >>= _) = _
  rw [hlast]
  show (Text.splitLast '.' (message claims) >>= _) = _
  rw [message, hfirst]
  rfl

/-! ## What the parts hold -/

theorem header_plain : Plain maxDepth header :=
  .object _ _ (by simp [Plain.string])

theorem decodeHeader_header : decodeHeader header = .ok .hs256 := by rfl

/-- Times that a token can hold. -/
structure Holds (claims : Claims) : Prop where
  issuedAt : Claims.minTime ≤ claims.issuedAt ∧ claims.issuedAt ≤ Claims.maxTime
  expires : Claims.minTime ≤ claims.expires ∧ claims.expires ≤ Claims.maxTime

theorem isWhole_of_time {n : Int} (h : Claims.minTime ≤ n ∧ n ≤ Claims.maxTime) : IsWhole n :=
  ⟨h.1, Int.le_trans h.2 (by decide)⟩

theorem Holds.plain {claims : Claims} (h : Holds claims) : Plain maxDepth claims.toJson := by
  refine .object 126 _ fun m hm => ?_
  simp only [List.mem_cons, List.not_mem_nil, or_false] at hm
  rcases hm with rfl | rfl | rfl | rfl | rfl | rfl
  · exact .string _ _
  · exact .string _ _
  · exact .string _ _
  · exact .string _ _
  · exact .int _ _ (isWhole_of_time h.issuedAt)
  · exact .int _ _ (isWhole_of_time h.expires)

theorem decodeInt_int {low high n : Int} (h : low ≤ n ∧ n ≤ high) :
    decodeInt low high (.int n) = .ok n := by
  simp [decodeInt, h]

/-- Claims that a token can hold read back. -/
theorem Holds.decode {claims : Claims} (h : Holds claims) :
    Claims.decode claims.toJson = .ok claims := by
  have hsubject := claims.subject.decode_toJson
  have hrole := claims.role.decode_toJson
  have hissued := decodeInt_int h.issuedAt
  have hexpires := decodeInt_int h.expires
  have husername : decodeString (.string claims.username) = .ok claims.username := rfl
  have hissuer : decodeString (.string claims.issuer) = .ok claims.issuer := rfl
  unfold Claims.decode Claims.toJson
  generalize Uuid.decode = a, decodeString = b, Role.decode = c,
    decodeInt Claims.minTime Claims.maxTime = d at *
  simp [Fields.decode, Fields.ofObject, Fields.checkMembers, Fields.required, Seq.seq, Functor.map,
    Fields.both, List.lookup_cons, hsubject, husername, hrole, hissuer, hissued, hexpires]
  rfl

theorem Holds.decodeReading {claims : Claims} (h : Holds claims) :
    decodeReading claims.toJson = .ok ⟨claims, false⟩ := by
  rw [Token.decodeReading, h.decode]
  rfl

/-! ## Tokens -/

variable {mac : Mac} {key : Bytes} {claims : Claims}

/-- What an issued token says on trust is what was written into it. -/
theorem unverified_sign (h : Holds claims) : unverified (sign mac key claims) = .ok claims := by
  simp only [unverified, ofText?_sign, readPart_part _ header_plain, readPart_part _ h.plain,
    decodeHeader_header, h.decodeReading]
  rfl

/-- The bytes that are signed. -/
def signed (claims : Claims) : Bytes := utf8 (String.ofList (message claims))

/-- A key that signs the message otherwise does not vouch for the token. -/
theorem verify_sign_of_ne {key' : Bytes} (hkey : mac key' (signed claims) ≠ mac key (signed claims))
    (now : Int) : verify mac key' now (sign mac key claims) = .error .signature := by
  have hsignature : signature mac key' (message claims) ≠ signature mac key (message claims) :=
    fun heq => hkey (Base64.encode_injective Base64.Alphabet.forUrl_lawful heq)
  simp only [verify, ofText?_sign, readPart_part _ header_plain, decodeHeader_header]
  show (if signature mac key' (message claims) ≠ signature mac key (message claims) then _ else _)
    = _
  rw [if_pos hsignature]
  rfl

/-- With the key that it was signed with, a token is as good as its claims. -/
theorem verify_sign (h : Holds claims) (now : Int) :
    verify mac key now (sign mac key claims) = (checkClaims now claims).map fun _ => claims := by
  simp only [verify, ofText?_sign, readPart_part _ header_plain, readPart_part _ h.plain,
    decodeHeader_header, h.decodeReading]
  show (if signature mac key (message claims) ≠ signature mac key (message claims) then _ else _)
    = _
  rw [if_neg (not_not_intro rfl)]
  show (checkClaims now claims >>= fun _ => pure claims) = _
  cases checkClaims now claims <;> rfl

/-- If no other key signs like the one that the token was signed with, then only that key vouches
for the token. -/
theorem exists_verify_sign_iff (h : Holds claims) {key' : Bytes} (now : Int)
    (hkey : mac key' (signed claims) = mac key (signed claims) → key' = key) :
    (∃ c, verify mac key' now (sign mac key claims) = .ok c) ↔
      key' = key ∧ checkClaims now claims = .ok () := by
  by_cases heq : key' = key
  · subst heq
    rw [verify_sign h]
    cases checkClaims now claims with
    | ok => exact ⟨fun _ => ⟨rfl, rfl⟩, fun _ => ⟨claims, rfl⟩⟩
    | error e => exact ⟨nofun, nofun⟩
  · rw [verify_sign_of_ne (fun h => heq (hkey h))]
    exact ⟨nofun, fun h => absurd h.1 heq⟩

/-! ## Claims for a user -/

theorem holds_claimsFor (u : User) {issued : Int}
    (h : Claims.minTime ≤ issued ∧ issued ≤ Claims.maxTime) (lifetime : Nat) :
    Holds (claimsFor u issued lifetime) where
  issuedAt := h
  expires := by
    obtain ⟨hmin, hmax⟩ := h
    have hlong : Claims.minTime ≤ issued + lifetime := by omega
    exact ⟨Int.le_min.mpr ⟨hlong, Int.le_trans hmin hmax⟩, Int.min_le_right _ _⟩

/-- Claims for a user are good until the time of expiry. -/
theorem checkClaims_claimsFor (u : User) (issued lifetime : Int) {now : Int} (hnow : 0 ≤ now) :
    checkClaims now (claimsFor u issued lifetime) = .ok () ↔
      now ≤ (claimsFor u issued lifetime).expires := by
  unfold checkClaims
  split
  · next h => exact ⟨nofun, fun hle => by omega⟩
  · split
    · next h => exact ⟨nofun, fun hle => by omega⟩
    · next h => exact ⟨fun _ => by omega, fun _ => if_neg (not_not_intro rfl)⟩

end Token

end AccountServer
