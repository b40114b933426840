import GmailGateway.Effect.Session
import GmailGateway.Errors
import GmailGateway.Python.Base64

/-!
# GmailGateway.Keystore.Aead

Sealed records (`keystore/aead.py`): AES-256-GCM under a data-encryption key that a key
provider hands out, with the record's type and version as associated data.

The cipher is a parameter. The key provider and the nonce factory are asked each time, and
may raise.
-/

namespace GmailGateway

open Effect Proc Python

/-- `AESGCM` of `cryptography`. -/
structure AesGcm where
  /-- `AESGCM(dek).encrypt(nonce, data, aad)`. -/
  encrypt : (dek nonce data aad : Bytes) → Except Exc Bytes
  /-- `AESGCM(dek).decrypt(nonce, data, aad)`; `none` where it raises `InvalidTag`. -/
  decrypt : (dek nonce data aad : Bytes) → Option Bytes

/-- Decryption inverts encryption under the same key, nonce and associated data. -/
def AesGcm.RoundTrips (gcm : AesGcm) : Prop :=
  ∀ dek nonce data aad ciphertext, gcm.encrypt dek nonce data aad = .ok ciphertext →
    gcm.decrypt dek nonce ciphertext aad = some data

/-- `_DEK_LEN`. -/
def dekLen := 32

/-- `_NONCE_LEN`. -/
def nonceLen := 12

/-! ### The key provider -/

/-- What sealing asks for. -/
inductive KeystoreOp
  | getDek
  /-- The nonce factory, `os.urandom(12)`. -/
  | nonce

/-- The key and the nonce are bytes. -/
abbrev KeystoreOp.Ret : KeystoreOp → Type
  | .getDek | .nonce => Bytes

/-- The key provider and the nonce factory. -/
abbrev KeystoreSig : Signature := ⟨KeystoreOp, KeystoreOp.Ret⟩

/-- A procedure that may ask them. -/
abbrev KeystoreProc (α : Type) := Proc KeystoreSig Exc α

/-- `_require_dek`: a key of another length is refused. -/
def requireDek : KeystoreProc Bytes := do
  let dek ← perform (S := KeystoreSig) .getDek
  raiseIf (dek.length ≠ dekLen) (.keyMaterial "DEK must be %d bytes")
  pure dek

/-! ### Records -/

/-- Associated data: a canonical tag of type and version, which reach it unchecked. -/
def aad : (recordType version : PyVal) → Except Exc Bytes
  | .str (c :: recordType), .int version =>
      if version < 1 then .error (.sealedRecord "version must be an int >= 1")
      -- `%d` renders no more digits than this.
      else if intMaxStrDigits < (decimal version).length then .error .valueError
      else
        match encodeUtf8 (str "gmail-gateway/keystore/v" ++ decimal version ++ str "/" ++
            (c :: recordType)) with
        | some tag => .ok tag
        | none => .error .unicodeEncodeError
  | .str (_ :: _), _ => .error (.sealedRecord "version must be an int >= 1")
  | _, _ => .error (.sealedRecord "record_type must be a non-empty str")

/-- `SealedRecord`. The associated data are not stored: they are made from type and version. -/
structure SealedRecord where
  version : PyVal
  recordType : PyVal
  nonce : Bytes
  ciphertext : Bytes

namespace SealedRecord

/-- `SealedRecord.to_dict`. -/
def toDict (r : SealedRecord) : PyVal :=
  .dict [(str "version", r.version), (str "record_type", r.recordType),
    (str "nonce", .str (Base64.b64encode r.nonce)),
    (str "ciphertext", .str (Base64.b64encode r.ciphertext))]

/-- `base64.b64decode(d[key], validate=True)`; `none` where anything of it raises. -/
def bytesField? (d : Dict) (key : PyStr) : Option Bytes :=
  match d.get? key with
  | some (.str s) => Base64.b64decode? s
  | _ => none

/-- The four fields, before they are checked. -/
def fields? : PyVal → Option SealedRecord
  | .dict d => do
      let nonce ← bytesField? d (str "nonce")
      let ciphertext ← bytesField? d (str "ciphertext")
      let version ← Dict.get? d (str "version")
      let recordType ← Dict.get? d (str "record_type")
      pure { version, recordType, nonce, ciphertext }
  | _ => none

/-- `SealedRecord.from_dict`: every field has to be there and decode, and type and version have to
be fit for associated data. -/
def fromDict (v : PyVal) : Except Exc SealedRecord :=
  match fields? v with
  | none => .error (.sealedRecord "malformed sealed record: %s")
  | some r =>
      if r.nonce.length ≠ nonceLen then .error (.sealedRecord "nonce must be %d bytes")
      else do
        let _ ← aad r.recordType r.version
        .ok r

theorem fields?_toDict (r : SealedRecord) : fields? r.toDict = some r := by
  have hnonce : ∀ v w x y : PyVal, Dict.get? [(str "version", v), (str "record_type", w),
      (str "nonce", x), (str "ciphertext", y)] (str "nonce") = some x := fun _ _ _ _ => rfl
  have hciphertext : ∀ v w x y : PyVal, Dict.get? [(str "version", v), (str "record_type", w),
      (str "nonce", x), (str "ciphertext", y)] (str "ciphertext") = some y := fun _ _ _ _ => rfl
  simp only [fields?, toDict, bytesField?, hnonce, hciphertext, Base64.b64decode?_b64encode]
  rfl

end SealedRecord

/-! ### The cipher -/

namespace AEADCipher

variable (gcm : AesGcm)

/-- `AEADCipher.seal`: type and version are bound to the ciphertext, the nonce is fresh. -/
def sealRecord (plaintext : Bytes) (recordType version : PyVal) : KeystoreProc SealedRecord := do
  let tag ← embed (aad recordType version)
  let nonce ← perform (S := KeystoreSig) .nonce
  raiseIf (nonce.length ≠ nonceLen) (.sealedRecord "nonce must be %d bytes")
  let dek ← requireDek
  let ciphertext ← embed (gcm.encrypt dek nonce plaintext tag)
  pure { version, recordType, nonce, ciphertext }

/-- Authenticated decryption: no path returns bytes without it. -/
def openRecord (r : SealedRecord) : KeystoreProc Bytes := do
  let tag ← embed (aad r.recordType r.version)
  let dek ← requireDek
  match gcm.decrypt dek r.nonce r.ciphertext tag with
  | some plaintext => pure plaintext
  | none => throw (.decryption "AEAD authentication failed")

end AEADCipher

end GmailGateway
