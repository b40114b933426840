import GmailGateway.Gateway.Persistence
import GmailGateway.Keystore.Aead

/-!
# GmailGateway.Gateway.SealedTokenStore

The daemon's token store (`gateway/sealed_token_store.py`, behind the seam of
`gateway/token_store.py`): one row of a `SqliteKV` that holds the sealed credentials, the
commit record, the voided operations, the generation barrier and the generation counter.

Every method that writes is one read-modify-write of that row. The transforms are pure
functions of the stored row; a key the row does not have yet reads as its default, so the
row is kept with the defaults filled in.
-/

namespace GmailGateway

open Effect Proc Python

/-- What the daemon committed. -/
structure CommitRecord where
  operationId : PyStr
  connectionId : PyStr
  resultId : PyStr
  version : Int
  generation : Int
  ackPending : Bool
  invalidated : Bool := false
  deriving DecidableEq

/-- The row. -/
structure Row where
  sealed : PyVal := .none
  commit : Option CommitRecord := none
  invalidatedOps : List PyStr := []
  barrier : Int := 0
  lastGeneration : Int := 0

/-- `_STATE_KEY`. -/
def stateKey : PyStr := str "gmail_oauth_state"

/-- `_RECORD_TYPE`. -/
def recordTypeCredentials : PyVal := .str (str "oauth_credentials")

/-- `_SEAL_VERSION`. -/
def sealVersion : PyVal := .int 1

/-- The arguments of `save_commit`. -/
structure CommitArgs where
  operationId : PyStr
  connectionId : PyStr
  resultId : PyStr
  version : Int
  generation : Int
  credentials : PyVal
  ackPending : Bool

/-- The record a commit writes: live, with the generation as given. -/
def CommitArgs.record (args : CommitArgs) : CommitRecord where
  operationId := args.operationId
  connectionId := args.connectionId
  resultId := args.resultId
  version := args.version
  generation := args.generation
  ackPending := args.ackPending
  invalidated := false

/-! ### The transforms

Each answers what it leaves for the method to return, and the row to persist or `none` for
`ABORT`. -/

namespace SealedTokenStore

/-- The `_txn` of `reserve_generation`: the next generation, and the row that counts it. -/
def reserveTxn (current : Option Row) : Int × Option Row :=
  let current := current.getD {}
  -- Past the counter and past the barrier, which may lead it.
  let g := max current.lastGeneration current.barrier + 1
  (g, some { current with lastGeneration := g })

/-- The `_txn` of `void_generation`: the barrier only ever rises. -/
def voidTxn (generation : Int) (current : Option Row) : Unit × Option Row :=
  let current := current.getD {}
  -- A generation below the barrier leaves it where it is.
  ((), some { current with barrier := max current.barrier generation })

/-- Why `save_commit` refuses, if it does. -/
def refusal? (args : CommitArgs) (current : Row) : Option String :=
  if args.operationId ∈ current.invalidatedOps then some "operation was voided before commit"
  else if args.generation ≤ current.barrier then some "generation is at or below the barrier"
  else none

/-- The `_txn` of `save_commit`: the refusal and no new row, or the commit record and the row that
holds it with the sealed credentials, in one write. -/
def saveTxn (args : CommitArgs) (sealed : PyVal) (current : Option Row) :
    Except String CommitRecord × Option Row :=
  let current := current.getD {}
  match refusal? args current with
  | some refused => (.error refused, none)
  | none => (.ok args.record, some { current with sealed, commit := some args.record })

/-- All three ids have to match; a late acknowledgement of a superseded operation does not. -/
def ackTxn (operationId resultId : PyStr) (version : Int) (current : Option Row) :
    Bool × Option Row :=
  match current with
  | none => (false, none)
  | some row =>
      match row.commit with
      | none => (false, none)
      | some commit =>
          if commit.operationId ≠ operationId ∨ commit.resultId ≠ resultId ∨
              commit.version ≠ version then (false, none)
          -- Acknowledged before: nothing to write, and no failure.
          else if commit.ackPending = false then (true, none)
          else (true, some { row with commit := some { commit with ackPending := false } })

/-- The void is recorded whether or not the operation is the committed one. -/
def invalidateTxn (operationId : PyStr) (current : Option Row) : Bool × Option Row :=
  let current := current.getD {}
  let invalidatedOps :=
    if operationId ∈ current.invalidatedOps then current.invalidatedOps
    else current.invalidatedOps ++ [operationId]
  match current.commit with
  -- The commit may still be on its way.
  | none => (false, some { current with invalidatedOps })
  | some commit =>
      if commit.operationId = operationId then
        (true, some { current with
          invalidatedOps, commit := some { commit with invalidated := true } })
      else (false, some { current with invalidatedOps })

/-- The `_txn` of `clear_credentials`: the credentials go; counter, barrier and commit record stay.
Whether there was anything to clear. -/
def clearTxn (current : Option Row) : Bool × Option Row :=
  match current with
  | none => (false, none)
  | some row =>
      match row.sealed with
      | .none => (false, none)
      -- The commit record stays as it is.
      | _ => (true, some { row with sealed := .none })

end SealedTokenStore

/-! ### The collaborators -/

/-- The store's own refusal, which nothing else raises. -/
def Exc.IsRefusal (e : Exc) : Prop := ∃ message, e = .commitInvalidated message

/-- The libraries of the store: the JSON text of its row, the encoded JSON text of the
credentials, and the cipher. -/
structure TokenPlatform (Blob : Type) where
  rows : JsonCodec Row Blob
  /-- `json.dumps(c).encode("utf-8")` and `json.loads(p.decode("utf-8"))`. -/
  credentials : JsonCodec PyVal Bytes
  gcm : AesGcm
  rows_dumps : ∀ row e, rows.dumps row = .error e → ¬ e.IsRefusal
  rows_loads : ∀ blob e, rows.loads blob = .error e → ¬ e.IsRefusal
  credentials_dumps : ∀ c e, credentials.dumps c = .error e → ¬ e.IsRefusal
  credentials_loads : ∀ p e, credentials.loads p = .error e → ¬ e.IsRefusal
  gcm_encrypt : ∀ dek nonce data aad e, gcm.encrypt dek nonce data aad = .error e → ¬ e.IsRefusal

/-- The collaborators of the token store. -/
inductive TokenParty
  | kv
  | keystore
  deriving DecidableEq

/-- What each of them offers: a SQLite handle, and the keystore. -/
abbrev TokenPartySig (Blob : Type) : TokenParty → Signature
  | .kv => SqliteSig (kvSchema Blob)
  | .keystore => KeystoreSig

/-- An operation of the token store is one on its collaborators. -/
abbrev TokenSig (Blob : Type) : Signature := Signature.all (TokenPartySig Blob)

/-- What the methods of the token store are. -/
abbrev TokenProc (Blob α : Type) := Proc (TokenSig Blob) Exc α

/-- An operation on a collaborator, with its answer. -/
abbrev TokenEvent (Blob : Type) := Event (TokenSig Blob) Exc

/-- Only the SQLite handle has a state. -/
abbrev TokenPartyState (Blob : Type) : TokenParty → Type
  | .kv => Handle (kvSchema Blob)
  | .keystore => Unit

/-- The states of the collaborators. -/
abbrev TokenState (Blob : Type) := ∀ party, TokenPartyState Blob party

/-- SQLite with any faults; a key provider and a nonce factory that answer or raise anything.
Neither raises the store's own refusal. -/
def tokenPartyEnv (Blob : Type) :
    ∀ party, Env (TokenPartySig Blob party) Exc (TokenPartyState Blob party)
  | .kv => fun h o r h' => sqliteEnv (kvSchema Blob) h o r h' ∧ ∀ e, r = .error e → ¬ e.IsRefusal
  | .keystore => fun _ _ r _ => ∀ e, r = .error e → ¬ e.IsRefusal

/-- The collaborators side by side: an operation on one leaves the other as it is. -/
abbrev tokenEnv (Blob : Type) : Env (TokenSig Blob) Exc (TokenState Blob) :=
  Env.all (tokenPartyEnv Blob)

namespace SealedTokenStore

variable {Blob : Type} (P : TokenPlatform Blob)

/-- On the SQLite handle. -/
abbrev atKv {α : Type} (p : SqliteProc (kvSchema Blob) α) : TokenProc Blob α :=
  p.at (S := TokenPartySig Blob) TokenParty.kv

/-- On the keystore. -/
abbrev atKeystore {α : Type} (p : KeystoreProc α) : TokenProc Blob α :=
  p.at (S := TokenPartySig Blob) TokenParty.keystore

/-- `self._kv.update(_STATE_KEY, txn)`, and what the transform left in its holder. -/
def transact {H : Type} (txn : Option Row → H × Option Row) : TokenProc Blob H := do
  let result ← atKv (SqliteKV.update P.rows stateKey fun current => .ok (txn current))
  pure result.1

/-- `reserve_generation`: a generation that no earlier reservation and no barrier has reached. -/
def reserveGeneration : TokenProc Blob Int := transact P reserveTxn

/-- `current_barrier`. -/
def currentBarrier : TokenProc Blob Int := do
  match ← atKv (SqliteKV.get P.rows stateKey) with
  | none => pure 0
  | some row => pure row.barrier

/-- `void_generation`: nothing of this generation or an earlier one is saved from now on. -/
def voidGeneration (generation : Int) : TokenProc Blob Unit := transact P (voidTxn generation)

/-- `save_commit`: seal, and write credentials and commit record in one transaction, unless the
commit is refused there. -/
def saveCommit (args : CommitArgs) : TokenProc Blob CommitRecord := do
  -- Sealed outside the transaction.
  let plaintext ← embed (P.credentials.dumps args.credentials)
  let sealed ← atKeystore (AEADCipher.sealRecord P.gcm plaintext recordTypeCredentials sealVersion)
  match ← transact P (saveTxn args sealed.toDict) with
  | .error refused => throw (.commitInvalidated refused)
  | .ok record => pure record

/-- `_open`: a failure that is caught becomes one of the three buckets, any other passes. -/
def openSealed (sealed : PyVal) : TokenProc Blob PyVal := do
  let record ← tryCatch (embed (SealedRecord.fromDict sealed)) fun
    | .sealedRecord _ => throw (.credentialsCorrupt "sealed record is malformed")
    | e => throw e
  let plaintext ← tryCatch (atKeystore (AEADCipher.openRecord P.gcm record)) fun
    | .keyUnavailable _ => throw (.credentialsMissing "key material absent")
    | .keyBackendUnavailable _ => throw (.keychainUnavailable "keychain unavailable")
    | .keyMaterial _ | .decryption _ => throw (.credentialsCorrupt "credentials will not open")
    | e => throw e
  tryCatch (embed (P.credentials.loads plaintext)) fun
    | .valueError => throw (.credentialsCorrupt "decrypted credentials are malformed")
    | e => throw e

/-- `load_credentials`. -/
def loadCredentials : TokenProc Blob PyVal := do
  match ← atKv (SqliteKV.get P.rows stateKey) with
  | none => throw (.credentialsMissing "no sealed credentials")
  | some row =>
      match row.sealed with
      | .none => throw (.credentialsMissing "no sealed credentials")
      | v => openSealed P v

/-- Never opens the credentials. -/
def loadCommit : TokenProc Blob (Option CommitRecord) := do
  match ← atKv (SqliteKV.get P.rows stateKey) with
  | none => pure none
  | some row => pure row.commit

/-- `mark_ack_confirmed`: whether the stored commit was the one named. -/
def markAckConfirmed (operationId resultId : PyStr) (version : Int) : TokenProc Blob Bool :=
  transact P (ackTxn operationId resultId version)

/-- `invalidate_commit`: note the operation as void, and mark its commit if it is the stored one. -/
def invalidateCommit (operationId : PyStr) : TokenProc Blob Bool :=
  transact P (invalidateTxn operationId)

/-- `clear_credentials`. -/
def clearCredentials : TokenProc Blob Bool := transact P clearTxn

end SealedTokenStore

/-! ### Calls -/

/-- A call of a public method of the token store. -/
inductive TokenCall
  | reserveGeneration
  | currentBarrier
  | voidGeneration (generation : Int)
  | saveCommit (args : CommitArgs)
  | loadCredentials
  | loadCommit
  | markAckConfirmed (operationId resultId : PyStr) (version : Int)
  | invalidateCommit (operationId : PyStr)
  | clearCredentials

/-- What these methods return. -/
inductive TokenAnswer
  | int (n : Int)
  | unit
  | record (c : CommitRecord)
  | credentials (v : PyVal)
  | commit (c : Option CommitRecord)
  | bool (b : Bool)

/-- The method that is called, with its arguments. -/
def TokenCall.run {Blob : Type} (P : TokenPlatform Blob) : TokenCall → TokenProc Blob TokenAnswer
  | .reserveGeneration => do let g ← SealedTokenStore.reserveGeneration P; pure (.int g)
  | .currentBarrier => do let g ← SealedTokenStore.currentBarrier P; pure (.int g)
  | .voidGeneration generation => do
      let _ ← SealedTokenStore.voidGeneration P generation
      pure .unit
  | .saveCommit args => do let c ← SealedTokenStore.saveCommit P args; pure (.record c)
  | .loadCredentials => do let v ← SealedTokenStore.loadCredentials P; pure (.credentials v)
  | .loadCommit => do let c ← SealedTokenStore.loadCommit P; pure (.commit c)
  | .markAckConfirmed operationId resultId version => do
      let b ← SealedTokenStore.markAckConfirmed P operationId resultId version
      pure (.bool b)
  | .invalidateCommit operationId => do
      let b ← SealedTokenStore.invalidateCommit P operationId
      pure (.bool b)
  | .clearCredentials => do let b ← SealedTokenStore.clearCredentials P; pure (.bool b)

/-- A restart: the process and its handle are gone, the database stays. -/
def TokenState.reopen {Blob : Type} (s : TokenState Blob) : TokenState Blob :=
  Function.update s .kv { committed := (s .kv).committed }

/-! ### A token store that can be run -/

/-- Perform one request: SQLite does not fail, and the key and the nonce are given. -/
def TokenState.perform {Blob : Type} (dek nonce : Bytes) (s : TokenState Blob) :
    (o : (TokenSig Blob).Op) → Except Exc ((TokenSig Blob).Ret o) × TokenState Blob
  | ⟨.kv, o⟩ =>
      (((s .kv).perform (fun _ => false) o).1,
        Function.update s .kv ((s .kv).perform (fun _ => false) o).2)
  | ⟨.keystore, .getDek⟩ => (.ok dek, s)
  | ⟨.keystore, .nonce⟩ => (.ok nonce, s)

theorem TokenState.perform_env {Blob : Type} (dek nonce : Bytes) (s : TokenState Blob)
    (o : (TokenSig Blob).Op) :
    tokenEnv Blob s o (TokenState.perform dek nonce s o).1 (TokenState.perform dek nonce s o).2 := by
  obtain ⟨party, o⟩ := o
  cases party with
  | kv =>
      refine ⟨_, ⟨(s .kv).perform_env (fun _ => false) o, fun e he => ?_⟩, rfl⟩
      cases o <;> cases he
  | keystore =>
      cases o with
      | getDek | nonce => exact ⟨s .keystore, nofun, (Function.update_eq_self _ s).symm⟩

end GmailGateway
