import AccountServer.Proofs.Crypto.Base64
import AccountServer.Proofs.Except
import AccountServer.Proofs.Text.Split
import AccountServer.Token.Codec

/-!
# What a good token is made of

A token may be any text at all. If a key vouches for one (`verify_eq_ok`), then it has the form of
a token and the signature that the key gives (`SignedWith`), and its claims are good at the moment.
The claims are the same as those that are read on trust, so the user who was looked up is the one
whom the signature is about.
-/

namespace AccountServer

open Crypto Json

/-! ## Base 64 -/

namespace Crypto.Base64

/-- The text stands for bytes, in the alphabet for URLs. -/
def IsEncoded (cs : List Char) : Prop := ∃ bytes, decode? .forUrl cs = some bytes

/-- Every character of such a text is a digit. -/
theorem IsEncoded.digit {cs : List Char} (h : IsEncoded cs) {c : Char} (hc : c ∈ cs) :
    ∃ d, Alphabet.forUrl.digit? c = some d := by
  obtain ⟨bytes, hbytes⟩ := h
  obtain ⟨ds, hds, -⟩ := Option.bind_eq_some_iff.mp hbytes
  clear hbytes
  induction cs generalizing ds with
  | nil => cases hc
  | cons first rest ih =>
    rw [List.mapM_cons] at hds
    obtain ⟨d, hd, hmore⟩ := Option.bind_eq_some_iff.mp hds
    obtain ⟨ds', hds', -⟩ := Option.bind_eq_some_iff.mp hmore
    rcases List.mem_cons.mp hc with rfl | hrest
    · exact ⟨d, hd⟩
    · exact ih hrest ds' hds'

theorem IsEncoded.point_not_mem {cs : List Char} (h : IsEncoded cs) : '.' ∉ cs := by
  intro hpoint
  obtain ⟨d, hd⟩ := h.digit hpoint
  cases hd

theorem isEncoded_encode (bytes : Bytes) : IsEncoded (encode .forUrl bytes) :=
  ⟨bytes, decode?_encode Alphabet.forUrl_lawful bytes⟩

end Crypto.Base64

namespace Token

/-! ## Parts -/

/-- The parts of a token are all of it, with points between them. -/
theorem Parts.text_of_ofText? {token : String} {parts : Parts}
    (h : Parts.ofText? token = some parts) :
    token.toList = parts.header ++ '.' :: parts.claims ++ '.' :: parts.signature := by
  obtain ⟨⟨message, signature⟩, hlast, hmore⟩ := Option.bind_eq_some_iff.mp h
  obtain ⟨⟨header, claims⟩, hfirst, heq⟩ := Option.bind_eq_some_iff.mp hmore
  cases heq
  rw [Text.eq_of_splitLast hlast, Text.eq_of_splitLast hfirst]

theorem isEncoded_of_readPart {α : Type} {decode : Decoder α} {cs : List Char} {a : α}
    (h : readPart decode cs = .ok a) : Base64.IsEncoded cs := by
  unfold readPart at h
  split at h
  · cases h
  · next bytes hbytes => exact ⟨bytes, hbytes⟩

/-- What one decoder makes of a part decides what another one makes of it, if it does so for every
value. -/
theorem readPart_of_decode {α β : Type} {decode : Decoder α} {decode' : Decoder β} {f : α → β}
    (hdecode : ∀ j a, decode j = .ok a → decode' j = .ok (f a)) {cs : List Char} {a : α}
    (h : readPart decode cs = .ok a) : readPart decode' cs = .ok (f a) := by
  unfold readPart at h ⊢
  split at h
  · cases h
  · split at h
    · cases h
    · next text _ =>
      simp only [decodeDocument] at h ⊢
      cases hvalue : decode (read text).value with
      | error e =>
        rw [hvalue] at h
        cases h
      | ok b =>
        rw [hvalue] at h
        rw [hdecode _ b hvalue]
        -- Whether something stands behind the value is the same question to both.
        cases hends : (read text).ends with
        | false =>
          rw [hends] at h
          cases h
        | true =>
          rw [hends] at h
          cases h
          rfl

theorem claims_of_decodeReading {j : Json} {reading : Reading}
    (h : decodeReading j = .ok reading) : Claims.decode j = .ok reading.claims := by
  obtain ⟨claims, hclaims, hrest⟩ := bind_eq_ok_iff.mp h
  split at hrest
  · dsimp only at hrest
    split at hrest
    · cases hrest
    · cases hrest
      exact hclaims
  · cases hrest

/-! ## Tokens -/

/-- The token consists of these parts, which are all there is between its points. The header names
the algorithm, the claims are these, and the signature is that of the key over header and claims. -/
structure SignedWith (mac : Mac) (key : Bytes) (token : String) (parts : Parts) (claims : Claims) :
    Prop where
  text : Text.splitAll '.' token.toList = [parts.header, parts.claims, parts.signature]
  encoded : ∀ part ∈ [parts.header, parts.claims, parts.signature], Base64.IsEncoded part
  header : readPart decodeHeader parts.header = .ok .hs256
  claims : readPart Claims.decode parts.claims = .ok claims
  signature : parts.signature =
    Base64.encode .forUrl (mac key (utf8 (String.ofList (parts.header ++ '.' :: parts.claims))))

variable {mac : Mac} {key : Bytes} {now : Int} {token : String} {claims : Claims}

/-- A token whose parts can be read and whose signature agrees has been signed with the key. -/
theorem signedWith_of_parts {parts : Parts} (hparts : Parts.ofText? token = some parts)
    (hheader : readPart decodeHeader parts.header = .ok .hs256)
    (hclaims : readPart Claims.decode parts.claims = .ok claims)
    (hsignature : signature mac key parts.message = parts.signature) :
    SignedWith mac key token parts claims := by
  have hencoded : ∀ part ∈ [parts.header, parts.claims, parts.signature],
      Base64.IsEncoded part := by
    simp only [List.forall_mem_cons]
    refine ⟨isEncoded_of_readPart hheader, isEncoded_of_readPart hclaims, ?_, nofun⟩
    rw [← hsignature]
    exact Base64.isEncoded_encode _
  -- No part has a point, since a point is no digit.
  have hpoint := fun part hpart => (hencoded part hpart).point_not_mem
  simp only [List.forall_mem_cons] at hpoint
  obtain ⟨hheaderPoint, hclaimsPoint, hsignaturePoint, -⟩ := hpoint
  refine ⟨?_, hencoded, hheader, hclaims, hsignature.symm⟩
  rw [Parts.text_of_ofText? hparts, List.append_assoc, List.cons_append,
    Text.splitAll_append hheaderPoint, Text.splitAll_append hclaimsPoint,
    Text.splitAll_of_not_mem hsignaturePoint]

theorem checkClaims_eq_ok (h : checkClaims now claims = .ok ()) :
    now ≤ claims.expires ∧ claims.issuer = issuer := by
  unfold checkClaims at h
  split at h
  · cases h
  · split at h
    · cases h
    · next hexpires =>
      split at h
      · cases h
      · next hissuer => exact ⟨Int.not_lt.mp hexpires, not_not.mp hissuer⟩

/-- What has been checked of a token that a key vouches for. -/
theorem verify_eq_ok (h : verify mac key now token = .ok claims) :
    (∃ parts, SignedWith mac key token parts claims) ∧ now ≤ claims.expires ∧
      claims.issuer = issuer ∧ unverified token = .ok claims := by
  unfold verify at h
  split at h
  · cases h
  · next parts hparts =>
    obtain ⟨algorithm, hheader, h⟩ := bind_eq_ok_iff.mp h
    dsimp only at h
    split at h
    · cases h
    · next halgorithm =>
      obtain rfl := not_not.mp halgorithm
      split at h
      · cases h
      · next hsignature =>
        obtain ⟨reading, hreading, h⟩ := bind_eq_ok_iff.mp h
        obtain ⟨_, hchecked, h⟩ := bind_eq_ok_iff.mp h
        split at h
        · cases h
        · next haudience =>
          cases h
          obtain ⟨hexpires, hissuer⟩ := checkClaims_eq_ok hchecked
          have hclaims := readPart_of_decode (fun _ _ => claims_of_decodeReading) hreading
          have hsigned := signedWith_of_parts hparts hheader hclaims (not_not.mp hsignature)
          refine ⟨⟨parts, hsigned⟩, hexpires, hissuer, ?_⟩
          simp only [unverified, hparts, hheader, hreading]
          exact if_neg haudience

end Token

end AccountServer
