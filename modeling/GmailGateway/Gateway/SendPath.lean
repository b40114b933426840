import GmailGateway.Authz.Capability
import GmailGateway.Effect.Implement
import GmailGateway.Gateway.Persistence
import GmailGateway.Keystore.Aead

/-!
# GmailGateway.Gateway.SendPath

The token store of the send path (`gateway/send_path.py`, `SealedTokenStore`): one record of a
key-value backend that holds the sealed token, next to the provenance of the write in the
clear, which the sealed copy authenticates.

What the backend holds is untyped: everything in the record but the opened plaintext is in
reach of whoever can write the database.
-/

namespace GmailGateway

open Effect Proc Python

/-! ### The collaborators -/

/-- What the sealed record of the access token is read and written with. -/
inductive TokenRecordOp
  | get (key : PyStr)
  | put (key : PyStr) (value : PyVal)
  | keystore (keystoreOp : KeystoreOp)

/-- The answers of backend and keystore. -/
abbrev TokenRecordOp.Ret : TokenRecordOp → Type
  | .get _ => Option PyVal
  | .put _ _ => Unit
  | .keystore keystoreOp => keystoreOp.Ret

/-- A backend and the keystore. -/
abbrev TokenRecordSig : Signature := ⟨TokenRecordOp, TokenRecordOp.Ret⟩

/-- What the methods of this store are. -/
abbrev TokenRecordProc (α : Type) := Proc TokenRecordSig Exc α

/-- A procedure of the cipher. -/
abbrev onKeystore {α : Type} (p : KeystoreProc α) : TokenRecordProc α :=
  p.implement fun keystoreOp => perform (S := TokenRecordSig) (.keystore keystoreOp)

namespace SendPath.SealedTokenStore

/-- `_RECORD_TYPE`. -/
def recordType : PyVal := .str (str "oauth_token")

/-- `_VERSION`. -/
def version : PyVal := .int 1

/-- `_KEY`. -/
def recordKey : PyStr := str "sealed_token"

/-- `_WRITE_ORIGINS`. -/
def writeOrigins : List PyStr := [str "authorize", str "refresh"]

/-- The fields of a token, `None` where they were left out. -/
structure Token where
  accessToken : PyVal
  refreshToken : PyVal := .none
  issuedAt : PyVal := .none
  expiresAt : PyVal := .none
  clientId : PyVal := .none
  clientSecret : PyVal := .none
  scope : PyVal := .none

/-- What is sealed of a token. -/
def Token.blob (token : Token) (writeOrigin : PyStr) : PyVal :=
  .dict [(str "access_token", token.accessToken), (str "refresh_token", token.refreshToken),
    (str "issued_at", token.issuedAt), (str "expires_at", token.expiresAt),
    (str "client_id", token.clientId), (str "client_secret", token.clientSecret),
    (str "scope", token.scope), (str "write_origin", .str writeOrigin),
    (str "written_at", token.issuedAt)]

/-- What is stored of a token: the sealed record, and the provenance of the write. -/
def Token.record (token : Token) (writeOrigin : PyStr) (r : SealedRecord) : PyVal :=
  .dict [(str "version", r.version), (str "record_type", r.recordType),
    (str "nonce", .str (Base64.b64encode r.nonce)),
    (str "ciphertext", .str (Base64.b64encode r.ciphertext)),
    (str "write_origin", .str writeOrigin), (str "written_at", token.issuedAt)]

/-- The provenance in the clear is the sealed one. Records without any are older ones, and
stay readable. -/
def checkProvenance (raw data : Dict) : Except Exc Unit :=
  let outerOrigin := raw.get (str "write_origin")
  let innerOrigin := data.get (str "write_origin")
  let mismatch := Exc.keyMaterial "sealed token write provenance mismatch"
  if outerOrigin.isNone ∧ innerOrigin.isNone then .ok ()
  else if outerOrigin.pyEq innerOrigin = false then .error mismatch
  else
    match outerOrigin.hashKey with
    -- Membership in the set of origins hashes the value first.
    | none => .error .typeError
    | some origin =>
        if origin ∉ writeOrigins.map PyVal.HashKey.str then .error mismatch
        else if (raw.get (str "written_at")).pyEq (data.get (str "written_at")) = false then
          .error mismatch
        else .ok ()

/-- The checks of `_open` on what it opened. -/
def checkToken (raw data : PyVal) : Except Exc Dict := do
  -- Anything but an object has no `get`.
  let data ← expectDict .other data
  match data.get (str "access_token") with
  | .str _ => do
      let raw ← expectDict .other raw
      checkProvenance raw data
      pure data
  | _ => throw (.keyMaterial "sealed token missing access_token")

section
variable (json : JsonCodec PyVal Bytes) (gcm : AesGcm)

/-- `store`: seal, and replace the row. -/
def store (token : Token) (writeOrigin : PyStr) : TokenRecordProc Unit := do
  raiseIf (writeOrigin ∉ writeOrigins) .valueError
  let blob ← embed (json.dumps (token.blob writeOrigin))
  let r ← onKeystore (AEADCipher.sealRecord gcm blob recordType version)
  -- One row replacement keeps credential and provenance together.
  perform (S := TokenRecordSig) (.put recordKey (token.record writeOrigin r))

/-- `_open`. -/
def openToken : TokenRecordProc Dict := do
  match ← perform (S := TokenRecordSig) (.get recordKey) with
  | none | some .none => throw (.keyUnavailable "no sealed token stored")
  | some raw => do
      let r ← embed (SealedRecord.fromDict raw)
      let plaintext ← onKeystore (AEADCipher.openRecord gcm r)
      let data ← embed (json.loads plaintext)
      embed (checkToken raw data)

/-- `access_token`. -/
def accessToken : TokenRecordProc PyVal := do
  let data ← openToken json gcm
  match data.get? (str "access_token") with
  | some token => pure token
  | none => throw .keyError

/-- The decrypted record, for the refresh provider. -/
def tokenRecord : TokenRecordProc Dict := openToken json gcm

/-- `v or w`. -/
def orElse (v w : PyVal) : PyVal := if v.truthy then v else w

/-- `replace_access_token`: a falsy refresh token or scope keeps the one that was stored. -/
def replaceAccessToken (accessToken issuedAt expiresAt refreshToken scope : PyVal) :
    TokenRecordProc Unit := do
  let current ← openToken json gcm
  store json gcm
    { accessToken, issuedAt, expiresAt
      refreshToken := orElse refreshToken (current.get (str "refresh_token"))
      clientId := current.get (str "client_id")
      clientSecret := current.get (str "client_secret")
      scope := orElse scope (current.get (str "scope")) }
    (str "refresh")

end

end SendPath.SealedTokenStore

end GmailGateway
