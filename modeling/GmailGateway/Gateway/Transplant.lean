import GmailGateway.Gateway.SendPath
import GmailGateway.Gateway.TokenStoreInvariants
import GmailGateway.Keystore.Sealing
import GmailGateway.Python.Json

/-!
# GmailGateway.Gateway.Transplant

**Moving sealed records.** The associated data of a record is rebuilt from the type and version
stored next to its ciphertext. So a record does not open when its type is altered, but it does
when it is moved as a whole, and neither token store compares the type of what it finds with
the type it seals.

The cipher is ideal here: what opens was sealed. A record therefore opens as exactly what it
was sealed as, and a store returns only its own kind exactly if the record in its slot was not
sealed as another kind.
-/

namespace GmailGateway

open Effect Proc Python

/-! ### The daemon's store -/

section Daemon
variable {Blob : Type} (P : TokenPlatform Blob)

variable {P}

end Daemon

/-! ### The store of the send path -/

/-- The record that is stored is read back, whatever stands next to it. -/
theorem record_fromDict (token : SendPath.SealedTokenStore.Token) (writeOrigin : PyStr)
    {r : SealedRecord} {tag : Bytes} (hnonce : r.nonce.length = nonceLen)
    (htag : aad r.recordType r.version = .ok tag) :
    SealedRecord.fromDict (token.record writeOrigin r) = .ok r := by
  have hfields : SealedRecord.fields? (token.record writeOrigin r) = some r := by
    have hnonce : ∀ v w x y z a : PyVal, Dict.get? [(str "version", v), (str "record_type", w),
        (str "nonce", x), (str "ciphertext", y), (str "write_origin", z), (str "written_at", a)]
        (str "nonce") = some x := fun _ _ _ _ _ _ => rfl
    have hciphertext : ∀ v w x y z a : PyVal, Dict.get? [(str "version", v),
        (str "record_type", w), (str "nonce", x), (str "ciphertext", y), (str "write_origin", z),
        (str "written_at", a)] (str "ciphertext") = some y := fun _ _ _ _ _ _ => rfl
    simp only [SealedRecord.fields?, SendPath.SealedTokenStore.Token.record,
      SealedRecord.bytesField?, hnonce, hciphertext, Base64.b64decode?_b64encode]
    rfl
  rw [SealedRecord.fromDict, hfields]
  simp only [hnonce, ne_eq, not_true_eq_false, if_false, htag]
  rfl

section SendPath
variable {json : JsonCodec PyVal Bytes} {gcm : AesGcm}

open SendPath

end SendPath

/-! ### Who returns what -/

/-- A cipher with which one record was sealed, and nothing else. -/
def Sealing.gcm (x : Sealing) : AesGcm where
  encrypt _ _ _ _ := .ok x.record.ciphertext
  decrypt dek nonce ciphertext tag :=
    if x.dek = dek ∧ x.record.nonce = nonce ∧ x.record.ciphertext = ciphertext ∧
        (aad x.record.recordType x.record.version).toOption = some tag then some x.plaintext
    else none

/-- The JSON text that the send path seals of a token. -/
@[irreducible] def sampleTokenJson : Bytes :=
  (str ("\x7b\"access_token\": \"t\", \"refresh_token\": null, \"issued_at\": null, " ++
    "\"expires_at\": null, \"client_id\": null, \"client_secret\": null, \"scope\": null, " ++
    "\"write_origin\": \"authorize\", \"written_at\": null\x7d")).flatMap CodePoint.utf8

/-- A codec for the sample token. -/
def sampleJson : JsonCodec PyVal Bytes where
  dumps _ := .ok sampleTokenJson
  loads p :=
    match (decodeUtf8 p).bind (Json.parse fun _ => .nan) with
    | some v => .ok v
    | none => .error .valueError

theorem sampleJson_loads_of_parse {p : Bytes} {v : PyVal}
    (h : (decodeUtf8 p).bind (Json.parse fun _ => .nan) = some v) : sampleJson.loads p = .ok v := by
  simp only [sampleJson, h]

end GmailGateway
