import GmailGateway.Gateway.SealedTokenStore

/-!
# GmailGateway.Gateway.TokenStoreRuns

**What the token store keeps.** A call of the store writes the row its transform computes,
in one transaction, or leaves the table as it is (`call_meets`). Everything here is read off
the transforms: the voids and the barrier only grow, a reserved generation is past every
barrier, and the commit and the sealed credentials are written together. How the row is read back
is a parameter (`ReadsBack`).

Runs go over restarts: any call may fail at any request, or be stopped at one.
-/

namespace GmailGateway

open Effect Proc Python

namespace SealedTokenStore

variable {Blob : Type} {P : TokenPlatform Blob}

/-! ### The stored row -/

/-- What the store reads back. -/
def stored (P : TokenPlatform Blob) (t : Table Blob) : Except Exc (Option Row) :=
  SqliteKV.decode P.rows (t.get? stateKey)

/-- `t'` is `t` after the transaction wrote `w`; `none` writes nothing. -/
def Writes (P : TokenPlatform Blob) (t : Table Blob) : Option Row → Table Blob → Prop
  | none, t' => t' = t
  | some row, t' => ∃ blob, P.rows.dumps row = .ok blob ∧ t' = t.upsert stateKey blob

/-- No other row of the table changes. -/
theorem Writes.other {t t' : Table Blob} {w : Option Row} (h : Writes P t w t') {key : PyStr}
    (hkey : key ≠ stateKey) : t'.get? key = t.get? key := by
  cases w with
  | none =>
      obtain rfl : t' = t := h
      rfl
  | some row =>
      obtain ⟨blob, -, rfl⟩ := h
      exact Table.get?_upsert_of_ne hkey blob t

/-! ### One transaction -/

theorem transformed_eq {H : Type} {txn : Option Row → H × Option Row} {t : Table Blob}
    {current : Option Row}
    (hcurrent : stored P t = .ok current) :
    SqliteKV.transformed P.rows stateKey (fun c => .ok (txn c)) t = .ok (txn current) := by
  rw [SqliteKV.transformed]
  change (do let c ← stored P t; Except.ok (txn c)) = _
  rw [hcurrent]
  rfl

theorem writes_updated {H : Type} {txn : Option Row → H × Option Row} {t : Table Blob}
    {current : Option Row} (hcurrent : stored P t = .ok current) :
    SqliteKV.updated P.rows stateKey (fun c => .ok (txn c)) t = t ∨
      Writes P t (txn current).2 (SqliteKV.updated P.rows stateKey (fun c => .ok (txn c)) t) := by
  rw [SqliteKV.updated, transformed_eq hcurrent]
  generalize txn current = result
  obtain ⟨holder, _ | row⟩ := result
  · exact .inl rfl
  · dsimp only
    cases hdumps : P.rows.dumps row with
    | ok blob => exact .inr ⟨blob, hdumps, rfl⟩
    | error e => exact .inl rfl

/-- SQLite, the key provider and the nonce factory do not raise the store's refusal. -/
theorem tokenEnv_error (s : TokenState Blob) (o : (TokenSig Blob).Op) (e : Exc)
    (s' : TokenState Blob) (h : tokenEnv Blob s o (.error e) s') : ¬ e.IsRefusal := by
  obtain ⟨party, o⟩ := o
  obtain ⟨t, hw, -⟩ := h
  cases party with
  | kv => exact hw.2 e rfl
  | keystore => exact hw e rfl

theorem not_isRefusal_connectionEvicted : ¬ Exc.IsRefusal .connectionEvicted := nofun

theorem avoids_discardFailedWrite {D : Schema} :
    (EvictableSqlite.discardFailedWrite (D := D)).Avoids Exc.IsRefusal :=
  avoids_handle (avoids_perform _) fun _ _ =>
    avoids_bind (avoids_perform _) fun _ => avoids_handle (avoids_perform _) fun _ _ => trivial

theorem avoids_write {D : Schema} {stmt : Except Exc D.Stmt}
    (hstmt : ∀ e, stmt = .error e → ¬ e.IsRefusal) :
    (EvictableSqlite.write stmt).Avoids Exc.IsRefusal :=
  avoids_handle
    (avoids_bind (avoids_embed hstmt) fun _ => avoids_bind (avoids_perform _) fun _ =>
      avoids_bind (avoids_perform _) fun _ => trivial)
    fun _ he => avoids_bind avoids_discardFailedWrite fun _ => he

theorem avoids_ensureLive {D : Schema} :
    (EvictableSqlite.ensureLive (D := D)).Avoids Exc.IsRefusal :=
  avoids_bind (avoids_perform _) fun _ => avoids_raiseIf _ not_isRefusal_connectionEvicted

theorem decode_error {row : Option Blob} {e : Exc} (h : SqliteKV.decode P.rows row = .error e) :
    ∃ blob, P.rows.loads blob = .error e := by
  cases row with
  | none => cases h
  | some blob =>
      refine ⟨blob, ?_⟩
      rw [SqliteKV.decode] at h
      cases hloads : P.rows.loads blob with
      | ok row => rw [hloads] at h; cases h
      | error e' =>
          rw [hloads] at h
          cases h
          rfl

theorem not_isRefusal_decode {row : Option Blob} {e : Exc}
    (h : SqliteKV.decode P.rows row = .error e) : ¬ e.IsRefusal := by
  obtain ⟨blob, hloads⟩ := decode_error h
  exact P.rows_loads blob e hloads

/-- An `update` raises the refusal only if its transform does. -/
theorem avoids_update {H : Type} (txn : Option Row → H × Option Row) :
    (SqliteKV.update P.rows stateKey fun c => .ok (txn c)).Avoids Exc.IsRefusal := by
  refine avoids_bind avoids_ensureLive fun _ => avoids_bind (avoids_perform _) fun row =>
    avoids_bind (avoids_embed fun e he => not_isRefusal_decode he) fun current =>
      avoids_bind (avoids_embed nofun) fun result => ?_
  obtain ⟨holder, _ | value⟩ := result
  · trivial
  · refine avoids_bind (avoids_write fun e he => ?_) fun _ => trivial
    cases hdumps : P.rows.dumps value with
    | ok blob => rw [hdumps] at he; cases he
    | error e' =>
        rw [hdumps] at he
        cases he
        exact P.rows_dumps value e hdumps

/-- How a transaction from `s` ends that computes `txn` of the stored row. -/
structure Transacted {H : Type} (P : TokenPlatform Blob) (txn : H × Option Row)
    (s : TokenState Blob) (r : Except Exc H) (s' : TokenState Blob) : Prop where
  settled : (s' .kv).Settled
  returned : ∀ a, r = .ok a → a = txn.1 ∧ Writes P (s .kv).committed txn.2 (s' .kv).committed
  raised : ∀ e, r = .error e → (s' .kv).committed = (s .kv).committed ∧ ¬ e.IsRefusal

/-- **One transaction.** It writes what the transform computes of the stored row and returns,
or it raises and writes nothing. -/
theorem transact_meets {H : Type} (txn : Option Row → H × Option Row) {s : TokenState Blob}
    {current : Option Row} {τ : List (TokenEvent Blob)} (hsettled : (s .kv).Settled)
    (hcurrent : stored P (s .kv).committed = .ok current) :
    (transact P txn).sat (tokenEnv Blob)
      (fun τ' s' => τ <+: τ' ∧ ((s' .kv).committed = (s .kv).committed ∨
        Writes P (s .kv).committed (txn current).2 (s' .kv).committed))
      (fun r τ' s' => τ <+: τ' ∧ Transacted P (txn current) s r s') τ s := by
  have hlands := sat_of_env (V := tokenPartyEnv Blob .kv) (fun _ _ _ _ hw => hw.1)
    (SqliteKV.update_lands P.rows stateKey (fun c => .ok (txn c)) (s .kv) hsettled)
  have havoids := sat_avoids (W := tokenPartyEnv Blob .kv) (s := s .kv) (τ := [])
    (avoids_update (P := P) txn) (fun _ _ e _ hw => hw.2 e rfl)
  rw [transact, sat_bind]
  refine sat_party TokenParty.kv (sat_weaken (sat_and hlands havoids) ?_ ?_)
  · intro τ' h' hpart
    refine ⟨List.prefix_append _ _, ?_⟩
    rw [Function.update_self]
    rcases hpart.1 with hsame | heffect
    · exact .inl hsame
    · rw [heffect]
      exact writes_updated hcurrent
  · intro r τ' h' hpost
    obtain ⟨hlanded, herror⟩ := hpost
    cases r with
    | error e =>
        refine ⟨List.prefix_append _ _, ?_⟩
        refine ⟨?_, nofun, fun e' he' => ?_⟩
        · rw [Function.update_self]
          exact hlanded.settled
        · cases he'
          rw [Function.update_self]
          exact ⟨hlanded.raised e rfl, herror e rfl⟩
    | ok a =>
        obtain ⟨hcommitted, htransformed, hdumps⟩ := hlanded.returned a rfl
        rw [transformed_eq hcurrent] at htransformed
        obtain rfl : txn current = a := Except.ok.inj htransformed
        refine ⟨List.prefix_append _ _, ?_, fun a ha => ?_, nofun⟩
        · rw [Function.update_self]
          exact hlanded.settled
        · cases ha
          rw [Function.update_self, hcommitted]
          refine ⟨rfl, ?_⟩
          rw [SqliteKV.updated, transformed_eq hcurrent]
          generalize txn current = result at hdumps
          obtain ⟨holder, _ | row⟩ := result
          · rfl
          · obtain ⟨blob, hblob⟩ := hdumps row rfl
            dsimp only
            rw [hblob]
            exact ⟨blob, hblob, rfl⟩

/-- A read answers the stored row or raises; nothing changes. -/
theorem get_meets {s : TokenState Blob} {τ : List (TokenEvent Blob)} (hsettled : (s .kv).Settled) :
    (atKv (SqliteKV.get P.rows stateKey)).sat (tokenEnv Blob)
      (fun τ' s' => τ <+: τ' ∧ (s' .kv).committed = (s .kv).committed)
      (fun r τ' s' => τ <+: τ' ∧ (s' .kv).Settled ∧ (s' .kv).committed = (s .kv).committed ∧
        (∀ a, r = .ok a → stored P (s .kv).committed = .ok a) ∧
        ∀ e, r = .error e → ¬ e.IsRefusal) τ s := by
  have hlands := sat_of_env (V := tokenPartyEnv Blob .kv) (fun _ _ _ _ hw => hw.1)
    (EvictableSqlite.read_lands (D := kvSchema Blob) (.value stateKey) (SqliteKV.decode P.rows)
      (s .kv) hsettled)
  have havoids := sat_avoids (W := tokenPartyEnv Blob .kv) (s := s .kv) (τ := [])
    (p := SqliteKV.get P.rows stateKey)
    (avoids_bind avoids_ensureLive fun _ => avoids_bind (avoids_perform _) fun _ =>
      avoids_embed fun _ he => not_isRefusal_decode he) (fun _ _ e _ hw => hw.2 e rfl)
  refine sat_party TokenParty.kv (sat_weaken (sat_and hlands havoids) ?_ ?_)
  · intro τ' h' hpart
    rw [Function.update_self]
    exact ⟨List.prefix_append _ _, hpart.1.elim id id⟩
  · intro r τ' h' hpost
    obtain ⟨hlanded, herror⟩ := hpost
    rw [Function.update_self]
    refine ⟨List.prefix_append _ _, hlanded.settled, ?_, ?_, herror⟩
    · cases r with
      | error e => exact hlanded.raised e rfl
      | ok a => exact (hlanded.returned a rfl).1
    · intro a ha
      exact (hlanded.returned a ha).2

/-! ### Sealing -/

/-- `sealed` is the record of these credentials under `dek`. -/
def SealedWith (P : TokenPlatform Blob) (credentials : PyVal) (dek : Bytes) (v : PyVal) : Prop :=
  ∃ plaintext tag nonce ciphertext, P.credentials.dumps credentials = .ok plaintext ∧
    aad recordTypeCredentials sealVersion = .ok tag ∧ dek.length = dekLen ∧
    nonce.length = nonceLen ∧ P.gcm.encrypt dek nonce plaintext tag = .ok ciphertext ∧
    v = SealedRecord.toDict ⟨sealVersion, recordTypeCredentials, nonce, ciphertext⟩

/-- The key provider handed out `dek`. -/
def GaveDek (τ : List (TokenEvent Blob)) (dek : Bytes) : Prop :=
  (⟨⟨.keystore, .getDek⟩, .ok dek⟩ : TokenEvent Blob) ∈ τ

theorem aad_error {recordType version : PyVal} {e : Exc} (h : aad recordType version = .error e) :
    ¬ e.IsRefusal := by
  unfold aad at h
  split at h
  · split at h
    · cases h
      exact nofun
    · split at h
      · cases h
        exact nofun
      · split at h
        · cases h
        · cases h
          exact nofun
  · cases h
    exact nofun
  · cases h
    exact nofun

theorem avoids_requireDek : requireDek.Avoids Exc.IsRefusal :=
  avoids_bind (avoids_perform _) fun _ => avoids_bind (avoids_raiseIf _ nofun) fun _ => trivial

theorem avoids_sealRecord (plaintext : Bytes) (recordType version : PyVal) :
    (AEADCipher.sealRecord P.gcm plaintext recordType version).Avoids Exc.IsRefusal :=
  avoids_bind (avoids_embed fun _ he => aad_error he) fun _ =>
    avoids_bind (avoids_perform _) fun _ => avoids_bind (avoids_raiseIf _ nofun) fun _ =>
      avoids_bind avoids_requireDek fun _ =>
        avoids_bind (avoids_embed fun _ he => P.gcm_encrypt _ _ _ _ _ he) fun _ => trivial

/-- What sealing answers is sealed under the key that the provider handed out. -/
theorem sealRecord_meets {credentials : PyVal} {plaintext : Bytes} {s : TokenState Blob}
    {τ : List (TokenEvent Blob)} (hplaintext : P.credentials.dumps credentials = .ok plaintext) :
    (atKeystore (AEADCipher.sealRecord P.gcm plaintext recordTypeCredentials sealVersion) :
      TokenProc Blob SealedRecord).sat (tokenEnv Blob)
      (fun _ s' => s' .kv = s .kv)
      (fun r τ' s' => s' .kv = s .kv ∧
        (∀ a, r = .ok a → ∃ dek, GaveDek τ' dek ∧ SealedWith P credentials dek a.toDict) ∧
        ∀ e, r = .error e → ¬ e.IsRefusal) τ s := by
  have havoids := sat_avoids (W := tokenPartyEnv Blob .keystore) (s := s .keystore) (τ := [])
    (avoids_sealRecord (P := P) plaintext recordTypeCredentials sealVersion)
    (fun _ _ e _ hw => hw e rfl)
  have hsealed : (AEADCipher.sealRecord P.gcm plaintext recordTypeCredentials sealVersion).sat
      (tokenPartyEnv Blob .keystore) (fun _ _ => True)
      (fun r τ' _ => ∀ a, r = .ok a → ∃ dek, ⟨.getDek, .ok dek⟩ ∈ τ' ∧
        SealedWith P credentials dek a.toDict) [] (s .keystore) := by
    rw [AEADCipher.sealRecord, sat_bind, sat_embed]
    cases htag : aad recordTypeCredentials sealVersion with
    | error e => exact nofun
    | ok tag =>
        rw [andThen_ok, sat_bind, sat_perform]
        intro r _ _
        refine ⟨trivial, ?_⟩
        cases r with
        | error e => exact nofun
        | ok nonce =>
            rw [andThen_ok, sat_bind, sat_raiseIf]
            refine ⟨fun _ => nofun, fun hnonce => ?_⟩
            rw [andThen_ok, sat_bind, requireDek, sat_bind, sat_perform]
            intro r _ _
            refine ⟨trivial, ?_⟩
            cases r with
            | error e => exact nofun
            | ok dek =>
                rw [andThen_ok, sat_bind, sat_raiseIf]
                refine ⟨fun _ => nofun, fun hdek => ?_⟩
                rw [andThen_ok, sat_pure, andThen_ok, sat_bind, sat_embed]
                cases hencrypt : P.gcm.encrypt dek nonce plaintext tag with
                | error e => exact nofun
                | ok ciphertext =>
                    intro a ha
                    cases ha
                    exact ⟨dek, by simp, plaintext, tag, nonce, ciphertext, hplaintext, htag,
                      not_not.mp hdek, not_not.mp hnonce, hencrypt, rfl⟩
  refine sat_party TokenParty.keystore (sat_weaken (sat_and hsealed havoids) (fun _ _ _ => rfl) ?_)
  intro r τ' u hpost
  obtain ⟨hok, herror⟩ := hpost
  refine ⟨rfl, fun a ha => ?_, herror⟩
  obtain ⟨dek, hdek, hwith⟩ := hok a ha
  refine ⟨dek, List.mem_append_right _ ?_, hwith⟩
  exact List.mem_map_of_mem (f := Event.at (S := TokenPartySig Blob) .keystore) hdek

end SealedTokenStore

/-! ### One call -/

open SealedTokenStore

variable {Blob : Type} {P : TokenPlatform Blob}

/-- What a call writes over the stored row; `none` where it aborts or only reads. -/
def TokenCall.write : TokenCall → (sealed : PyVal) → Option Row → Option Row
  | .reserveGeneration, _, current => (reserveTxn current).2
  | .voidGeneration generation, _, current => (voidTxn generation current).2
  | .saveCommit args, sealed, current => (saveTxn args sealed current).2
  | .markAckConfirmed operationId resultId version, _, current =>
      (ackTxn operationId resultId version current).2
  | .invalidateCommit operationId, _, current => (invalidateTxn operationId current).2
  | .clearCredentials, _, current => (clearTxn current).2
  | .currentBarrier, _, _ | .loadCredentials, _, _ | .loadCommit, _, _ => none

/-- What a call that returns answers. What `load_credentials` answers takes the cipher to
say. -/
def TokenCall.Answers (k : TokenCall) (current : Option Row) (a : TokenAnswer) : Prop :=
  match k with
  | .reserveGeneration => a = .int (reserveTxn current).1
  | .currentBarrier => a = .int (current.getD {}).barrier
  | .voidGeneration _ => a = .unit
  | .saveCommit args => refusal? args (current.getD {}) = none ∧ a = .record args.record
  | .loadCredentials => True
  | .loadCommit => a = .commit (current.bind (·.commit))
  | .markAckConfirmed operationId resultId version =>
      a = .bool (ackTxn operationId resultId version current).1
  | .invalidateCommit operationId => a = .bool (invalidateTxn operationId current).1
  | .clearCredentials => a = .bool (clearTxn current).1

/-- What a call seals: the credentials of a commit, under a key it was given. -/
def TokenCall.Seals (P : TokenPlatform Blob) (k : TokenCall) (τ : List (TokenEvent Blob))
    (v : PyVal) : Prop :=
  match k with
  | .saveCommit args => ∃ dek, GaveDek τ dek ∧ SealedWith P args.credentials dek v
  | _ => True

/-- Up to here the call has written its row or nothing. -/
def TokenCall.Midway (P : TokenPlatform Blob) (k : TokenCall) (current : Option Row)
    (s : TokenState Blob) (τ : List (TokenEvent Blob)) (s' : TokenState Blob) : Prop :=
  (s' .kv).committed = (s .kv).committed ∨
    ∃ v, k.Seals P τ v ∧ Writes P (s .kv).committed (k.write v current) (s' .kv).committed

/-- How a call ends. -/
structure TokenCall.Finishes (P : TokenPlatform Blob) (k : TokenCall) (current : Option Row)
    (s : TokenState Blob) (r : Except Exc TokenAnswer) (τ : List (TokenEvent Blob))
    (s' : TokenState Blob) : Prop where
  settled : (s' .kv).Settled
  returned : ∀ a, r = .ok a → k.Answers current a ∧
    ∃ v, k.Seals P τ v ∧ Writes P (s .kv).committed (k.write v current) (s' .kv).committed
  raised : ∀ e, r = .error e → (s' .kv).committed = (s .kv).committed ∧
    (e.IsRefusal → ∃ args, k = .saveCommit args ∧ refusal? args (current.getD {}) ≠ none)

/-- A call whose whole work is one transaction. -/
theorem transact_finishes {H : Type} {k : TokenCall} {txn : Option Row → H × Option Row}
    {f : H → TokenAnswer} {s : TokenState Blob} {current : Option Row}
    (hsettled : (s .kv).Settled) (hcurrent : stored P (s .kv).committed = .ok current)
    (hwrite : ∀ v, k.write v current = (txn current).2) (hseals : ∀ τ v, k.Seals P τ v)
    (hanswer : k.Answers current (f (txn current).1)) :
    (do let a ← transact P txn; pure (f a)).sat (tokenEnv Blob) (k.Midway P current s)
      (k.Finishes P current s) [] s := by
  rw [sat_bind]
  refine sat_weaken (transact_meets txn hsettled hcurrent) ?_ ?_
  · intro τ s' hmid
    rcases hmid.2 with hsame | hwrites
    · exact .inl hsame
    · exact .inr ⟨.none, hseals τ .none, by rwa [hwrite]⟩
  · intro r τ s' hpost
    obtain ⟨-, htransacted⟩ := hpost
    cases r with
    | error e =>
        refine ⟨htransacted.settled, nofun, fun e' he' => ?_⟩
        cases he'
        exact ⟨(htransacted.raised e rfl).1, fun h => absurd h (htransacted.raised e rfl).2⟩
    | ok a =>
        obtain ⟨rfl, hwrites⟩ := htransacted.returned a rfl
        refine ⟨htransacted.settled, fun a ha => ?_, nofun⟩
        cases ha
        exact ⟨hanswer, .none, hseals τ .none, by rwa [hwrite]⟩

/-- A call that only reads. -/
theorem read_finishes {k : TokenCall} {f : Option Row → TokenProc Blob TokenAnswer}
    {s : TokenState Blob} {current : Option Row} (hsettled : (s .kv).Settled)
    (hcurrent : stored P (s .kv).committed = .ok current)
    (hwrite : ∀ v, k.write v current = none) (hseals : ∀ τ v, k.Seals P τ v)
    (hf : ∀ τ s',
      (f current).sat (tokenEnv Blob) (fun _ s'' => s'' .kv = s' .kv)
        (fun r _ s'' => s'' .kv = s' .kv ∧ (∀ a, r = .ok a → k.Answers current a) ∧
          ∀ e, r = .error e → ¬ e.IsRefusal) τ s') :
    (atKv (SqliteKV.get P.rows stateKey) >>= f).sat (tokenEnv Blob) (k.Midway P current s)
      (k.Finishes P current s) [] s := by
  rw [sat_bind]
  refine sat_weaken (get_meets hsettled) (fun τ s' hmid => .inl hmid.2) ?_
  intro r τ s' hpost
  obtain ⟨-, hsettled', hsame, hread, herror⟩ := hpost
  cases r with
  | error e =>
      refine ⟨hsettled', nofun, fun e' he' => ?_⟩
      cases he'
      exact ⟨hsame, fun h => absurd h (herror e rfl)⟩
  | ok row =>
      obtain rfl : current = row := by
        have hrow := hread row rfl
        rw [hcurrent] at hrow
        exact Except.ok.inj hrow
      refine sat_weaken (hf τ s') ?_ ?_
      · intro τ' s'' hkv
        exact .inl (by rw [hkv, hsame])
      · intro r τ' s'' hpost
        obtain ⟨hkv, hanswers, herror⟩ := hpost
        refine ⟨by rw [hkv]; exact hsettled', fun a ha => ⟨hanswers a ha, .none, hseals _ _, ?_⟩,
          fun e he => ⟨by rw [hkv, hsame], fun h => absurd h (herror e he)⟩⟩
        rw [hwrite, hkv, hsame]
        rfl

theorem avoids_openRecord (r : SealedRecord) :
    (AEADCipher.openRecord P.gcm r).Avoids Exc.IsRefusal := by
  refine avoids_bind (avoids_embed fun _ he => aad_error he) fun tag =>
    avoids_bind avoids_requireDek fun dek => ?_
  cases P.gcm.decrypt dek r.nonce r.ciphertext tag with
  | some plaintext => trivial
  | none => exact nofun

/-- Mapping failures onto the buckets raises no refusal. -/
theorem avoids_openSealed (v : PyVal) : (openSealed P v).Avoids Exc.IsRefusal := by
  have hrecord : ∀ e, SealedRecord.fromDict v = .error e → ¬ e.IsRefusal := by
    intro e he
    unfold SealedRecord.fromDict at he
    split at he
    · cases he
      exact nofun
    · split at he
      · cases he
        exact nofun
      · rename_i r _ _
        cases haad : aad r.recordType r.version with
        | ok tag => rw [haad] at he; cases he
        | error e' =>
            rw [haad] at he
            cases he
            exact aad_error haad
  refine avoids_bind (avoids_handle (avoids_embed hrecord) fun e he => ?_) fun r =>
    avoids_bind (avoids_handle (avoids_at (avoids_openRecord r)) fun e he => ?_) fun p =>
      avoids_handle (avoids_embed fun e he => P.credentials_loads p e he) fun e he => ?_
  · split
    · exact nofun
    · exact he
  · split
    · exact nofun
    · exact nofun
    · exact nofun
    · exact nofun
    · exact he
  · split
    · exact nofun
    · exact he

/-- Opening asks the keystore only. -/
theorem performs_openSealed (v : PyVal) :
    (openSealed P v).Performs fun o : (TokenSig Blob).Op => o.1 = TokenParty.keystore := by
  refine performs_bind (performs_handle (performs_embed _) fun e => ?_) fun r =>
    performs_bind (performs_handle (performs_at _ _) fun e => ?_) fun p =>
      performs_handle (performs_embed _) fun e => ?_
  · split <;> trivial
  · split <;> trivial
  · split <;> trivial

/-- The keystore does not touch the table. -/
theorem keystore_keeps {s s' : TokenState Blob} {o : (TokenSig Blob).Op}
    {r : Except Exc ((TokenSig Blob).Ret o)} (ho : o.1 = TokenParty.keystore)
    (hw : tokenEnv Blob s o r s') : s' .kv = s .kv := by
  obtain ⟨party, o⟩ := o
  obtain rfl : party = .keystore := ho
  obtain ⟨u, -, rfl⟩ := hw
  rfl

theorem openSealed_meets (v : PyVal) {τ : List (TokenEvent Blob)} {s : TokenState Blob} :
    (openSealed P v).sat (tokenEnv Blob) (fun _ s' => s' .kv = s .kv)
      (fun r _ s' => s' .kv = s .kv ∧ ∀ e, r = .error e → ¬ e.IsRefusal) τ s := by
  have hkeeps := sat_keeps (W := tokenEnv Blob) (R := fun s s' => s' .kv = s .kv) (τ := τ) (s := s)
    (performs_openSealed (P := P) v) (fun _ _ _ h h' => h'.trans h)
    (fun _ _ _ _ ho hw => keystore_keeps ho hw) rfl
  have havoids := sat_avoids (τ := τ) (s := s) (avoids_openSealed (P := P) v) tokenEnv_error
  exact sat_weaken (sat_and hkeeps havoids) (fun _ _ h => h.1) fun _ _ _ h => h

/-- **One call.** On a settled handle over a readable row, a call writes what its transform
computes of that row and returns, or it raises and writes nothing. -/
theorem call_meets (k : TokenCall) {s : TokenState Blob} {current : Option Row}
    (hsettled : (s .kv).Settled) (hcurrent : stored P (s .kv).committed = .ok current) :
    (k.run P).sat (tokenEnv Blob) (k.Midway P current s) (k.Finishes P current s) [] s := by
  cases k with
  | reserveGeneration =>
      exact transact_finishes hsettled hcurrent (fun _ => rfl) (fun _ _ => trivial) rfl
  | voidGeneration generation =>
      exact transact_finishes (f := fun _ => .unit) hsettled hcurrent (fun _ => rfl)
        (fun _ _ => trivial) rfl
  | markAckConfirmed operationId resultId version =>
      exact transact_finishes hsettled hcurrent (fun _ => rfl) (fun _ _ => trivial) rfl
  | invalidateCommit operationId =>
      exact transact_finishes hsettled hcurrent (fun _ => rfl) (fun _ _ => trivial) rfl
  | clearCredentials =>
      exact transact_finishes hsettled hcurrent (fun _ => rfl) (fun _ _ => trivial) rfl
  | currentBarrier =>
      rw [TokenCall.run, currentBarrier, bind_assoc]
      refine read_finishes hsettled hcurrent (fun _ => rfl) (fun _ _ => trivial) fun τ s' => ?_
      cases current with
      | none => exact ⟨rfl, fun a ha => by cases ha; rfl, nofun⟩
      | some row => exact ⟨rfl, fun a ha => by cases ha; rfl, nofun⟩
  | loadCommit =>
      rw [TokenCall.run, loadCommit, bind_assoc]
      refine read_finishes hsettled hcurrent (fun _ => rfl) (fun _ _ => trivial) fun τ s' => ?_
      cases current with
      | none => exact ⟨rfl, fun a ha => by cases ha; rfl, nofun⟩
      | some row => exact ⟨rfl, fun a ha => by cases ha; rfl, nofun⟩
  | loadCredentials =>
      rw [TokenCall.run, loadCredentials, bind_assoc]
      refine read_finishes hsettled hcurrent (fun _ => rfl) (fun _ _ => trivial) fun τ s' => ?_
      cases current with
      | none => exact ⟨rfl, nofun, fun e he => by cases he; exact nofun⟩
      | some row =>
          dsimp only
          split
          · exact ⟨rfl, nofun, fun e he => by cases he; exact nofun⟩
          · rw [sat_bind]
            refine sat_mono (openSealed_meets row.sealed) ?_
            intro r τ' s'' hpost
            cases r with
            | error e =>
                refine ⟨hpost.1, nofun, fun e' he' => ?_⟩
                cases he'
                exact hpost.2 e rfl
            | ok v => exact ⟨hpost.1, fun _ _ => trivial, nofun⟩
  | saveCommit args =>
      rw [TokenCall.run, sat_bind, saveCommit, sat_bind, sat_embed]
      cases hdumps : P.credentials.dumps args.credentials with
      | error e =>
          refine ⟨hsettled, nofun, fun e' he' => ?_⟩
          cases he'
          exact ⟨rfl, fun h => absurd h (P.credentials_dumps _ e hdumps)⟩
      | ok plaintext =>
          rw [andThen_ok, sat_bind]
          refine sat_weaken (sealRecord_meets hdumps) (fun τ s' hkv => .inl (by rw [hkv])) ?_
          intro r τ s₁ hpost
          obtain ⟨hkv, hsealed, herror⟩ := hpost
          cases r with
          | error e =>
              refine ⟨by rw [hkv]; exact hsettled, nofun, fun e' he' => ?_⟩
              cases he'
              exact ⟨by rw [hkv], fun h => absurd h (herror e rfl)⟩
          | ok sealed =>
              obtain ⟨dek, hdek, hwith⟩ := hsealed sealed rfl
              rw [andThen_ok, sat_bind]
              refine sat_weaken (transact_meets (saveTxn args sealed.toDict) (s := s₁)
                (by rw [hkv]; exact hsettled) (by rw [hkv]; exact hcurrent)) ?_ ?_
              · intro τ' s' hmid
                obtain ⟨hpre, hsame | hwrites⟩ := hmid
                · exact .inl (by rw [hsame, hkv])
                · rw [hkv] at hwrites
                  exact .inr ⟨_, ⟨dek, hpre.subset hdek, hwith⟩, hwrites⟩
              · intro r τ' s' hpost
                obtain ⟨hpre, htransacted⟩ := hpost
                cases r with
                | error e =>
                    refine ⟨htransacted.settled, nofun, fun e' he' => ?_⟩
                    cases he'
                    obtain ⟨hsame, hnot⟩ := htransacted.raised e rfl
                    exact ⟨by rw [hsame, hkv], fun h => absurd h hnot⟩
                | ok holder =>
                    obtain ⟨rfl, hwrites⟩ := htransacted.returned holder rfl
                    rw [hkv] at hwrites
                    -- Whether the transform refused is decided by the row it saw.
                    cases hrefusal : refusal? args (current.getD {}) with
                    | some refused =>
                        have htxn : saveTxn args sealed.toDict current = (.error refused, none) := by
                          rw [saveTxn, hrefusal]
                        rw [htxn] at hwrites ⊢
                        refine ⟨htransacted.settled, nofun, fun e he => ⟨hwrites, fun _ => ?_⟩⟩
                        exact ⟨args, rfl, by rw [hrefusal]; exact nofun⟩
                    | none =>
                        have htxn : (saveTxn args sealed.toDict current).1 = .ok args.record := by
                          rw [saveTxn, hrefusal]
                        rw [htxn]
                        refine ⟨htransacted.settled, fun a ha => ⟨?_, ?_⟩, nofun⟩
                        · cases ha
                          exact ⟨hrefusal, rfl⟩
                        · exact ⟨_, ⟨dek, hpre.subset hdek, hwith⟩, hwrites⟩

/-! ### What a call does to the row

`Frame` is the inversion of the transforms: everything a call may do to the row it reads. -/

/-- The stored row; what is not there yet reads as its default. -/
def row (P : TokenPlatform Blob) (s : TokenState Blob) : Row :=
  match stored P (s .kv).committed with
  | .ok (some row) => row
  | _ => {}

theorem row_eq {s : TokenState Blob} {current : Option Row}
    (hcurrent : stored P (s .kv).committed = .ok current) : row P s = current.getD {} := by
  rw [row, hcurrent]
  cases current <;> rfl

/-- `Frame k v r r'`: over the row `r`, the call `k` may leave `r'`, and then has sealed `v`. -/
inductive Frame : TokenCall → PyVal → Row → Row → Prop
  | reserveGeneration {v r} :
      Frame .reserveGeneration v r { r with lastGeneration := max r.lastGeneration r.barrier + 1 }
  | voidGeneration {generation v r} :
      Frame (.voidGeneration generation) v r { r with barrier := max r.barrier generation }
  | saveCommit {args v r} : refusal? args r = none →
      Frame (.saveCommit args) v r { r with sealed := v, commit := some args.record }
  | markAckConfirmed {operationId resultId version v r c} : r.commit = some c →
      c.operationId = operationId → c.resultId = resultId → c.version = version →
      Frame (.markAckConfirmed operationId resultId version) v r
        { r with commit := some { c with ackPending := false } }
  | invalidateCommit {operationId v r} :
      Frame (.invalidateCommit operationId) v r
        { r with
          invalidatedOps := if operationId ∈ r.invalidatedOps then r.invalidatedOps
            else r.invalidatedOps ++ [operationId]
          commit := r.commit.map fun c =>
            if c.operationId = operationId then { c with invalidated := true } else c }
  | clearCredentials {v r} : Frame .clearCredentials v r { r with sealed := .none }

/-- An absent row is written like one of defaults. -/
theorem write_getD (k : TokenCall) (v : PyVal) (current : Option Row) :
    k.write v current = k.write v (some (current.getD {})) := by
  cases current with
  | some r => rfl
  | none => cases k <;> rfl

theorem invalidateTxn_snd (operationId : PyStr) (r : Row) :
    (invalidateTxn operationId (some r)).2 = some { r with
      invalidatedOps := if operationId ∈ r.invalidatedOps then r.invalidatedOps
        else r.invalidatedOps ++ [operationId]
      commit := r.commit.map fun c =>
        if c.operationId = operationId then { c with invalidated := true } else c } := by
  obtain ⟨sealed, commit, invalidatedOps, barrier, lastGeneration⟩ := r
  cases commit with
  | none => rfl
  | some c => by_cases hc : c.operationId = operationId <;> simp [invalidateTxn, hc]

theorem Frame.of_write {k : TokenCall} {v : PyVal} {r r' : Row}
    (h : k.write v (some r) = some r') : Frame k v r r' := by
  cases k with
  | reserveGeneration =>
      cases h
      exact .reserveGeneration
  | voidGeneration generation =>
      cases h
      exact .voidGeneration
  | saveCommit args =>
      simp only [TokenCall.write, saveTxn, Option.getD_some] at h
      cases hrefusal : refusal? args r with
      | some refused => rw [hrefusal] at h; cases h
      | none =>
          rw [hrefusal] at h
          cases h
          exact .saveCommit hrefusal
  | markAckConfirmed operationId resultId version =>
      simp only [TokenCall.write, ackTxn] at h
      cases hcommit : r.commit with
      | none => rw [hcommit] at h; cases h
      | some c =>
          rw [hcommit] at h
          dsimp only at h
          split at h
          · cases h
          · rename_i hids
            split at h
            · cases h
            · cases h
              have hids' := not_or.mp hids
              have hids'' := not_or.mp hids'.2
              exact .markAckConfirmed hcommit (not_not.mp hids'.1) (not_not.mp hids''.1)
                (not_not.mp hids''.2)
  | invalidateCommit operationId =>
      rw [TokenCall.write, invalidateTxn_snd] at h
      cases h
      exact .invalidateCommit
  | clearCredentials =>
      simp only [TokenCall.write, clearTxn] at h
      split at h
      · cases h
      · cases h
        exact .clearCredentials
  | currentBarrier | loadCredentials | loadCommit => cases h

/-! ### Rows that are read back

The strings of a row need not come back as they were written. What the runs of the store need is
that a row comes back at all, and as what: `ρ` of it. -/

/-- Rows come back as `ρ` says, if what they hold sealed is `Good`, as it is in every run. -/
structure ReadsBack (P : TokenPlatform Blob) (Good : PyVal → Prop) (ρ : Row → Row) : Prop where
  loads : ∀ r blob, Good r.sealed → P.rows.dumps r = .ok blob → P.rows.loads blob = .ok (ρ r)
  absent : Good .none
  sealed : ∀ credentials dek v, SealedWith P credentials dek v → Good v
  reread : ∀ r, Good r.sealed → Good (ρ r).sealed

variable {Good : PyVal → Prop} {ρ : Row → Row}

theorem SealedTokenStore.Writes.stored {t t' : Table Blob} {w : Row} (hback : ReadsBack P Good ρ)
    (h : Writes P t (some w) t') (hw : Good w.sealed) : stored P t' = .ok (some (ρ w)) := by
  obtain ⟨blob, hdumps, rfl⟩ := h
  rw [SealedTokenStore.stored, Table.get?_upsert_self, SqliteKV.decode,
    hback.loads w blob hw hdumps]
  rfl

/-- What a call leaves sealed is good. -/
theorem ReadsBack.write (hback : ReadsBack P Good ρ) {k : TokenCall} {τ : List (TokenEvent Blob)}
    {v : PyVal} {r w : Row} (hseals : k.Seals P τ v) (hwrite : k.write v (some r) = some w)
    (hr : Good r.sealed) : Good w.sealed := by
  cases Frame.of_write hwrite with
  | saveCommit _ =>
      obtain ⟨dek, -, hwith⟩ := hseals
      exact hback.sealed _ _ _ hwith
  | clearCredentials => exact hback.absent
  | _ => exact hr

/-- The store can be used: nothing is pending on a live handle, and the row can be read. -/
structure Ready (P : TokenPlatform Blob) (Good : PyVal → Prop) (s : TokenState Blob) : Prop where
  settled : (s .kv).Settled
  readable : ∃ current, stored P (s .kv).committed = .ok current
  good : Good (row P s).sealed

/-- A call `k` from `s`, wherever it ended, and where the next call starts. What it wrote is read
back as `ρ` says. -/
structure Stepped (P : TokenPlatform Blob) (Good : PyVal → Prop) (ρ : Row → Row) (k : TokenCall)
    (s : TokenState Blob) (τ : List (TokenEvent Blob)) (out : Outcome Exc TokenAnswer)
    (s' : TokenState Blob) : Prop where
  ready : Ready P Good s'
  others : ∀ key, key ≠ stateKey → (s' .kv).committed.get? key = (s .kv).committed.get? key
  wrote : (s' .kv).committed = (s .kv).committed ∨
    ∃ v w, k.Seals P τ v ∧ k.write v (some (row P s)) = some w ∧ row P s' = ρ w
  returned : ∀ a, out = .done (.ok a) → k.Answers (some (row P s)) a ∧
    ∃ v, k.Seals P τ v ∧ row P s' = ((k.write v (some (row P s))).map ρ).getD (row P s)
  raised : ∀ e, out = .done (.error e) → (s' .kv).committed = (s .kv).committed ∧
    (e.IsRefusal → ∃ args, k = .saveCommit args ∧ refusal? args (row P s) ≠ none)

theorem row_congr {s s' : TokenState Blob} (h : (s' .kv).committed = (s .kv).committed) :
    row P s' = row P s := by
  rw [row, row, h]

/-- A restart leaves the store as it was committed. -/
theorem reopen_committed (s : TokenState Blob) :
    (TokenState.reopen s .kv).committed = (s .kv).committed := rfl

theorem Ready.reopen {s : TokenState Blob} (h : Ready P Good s) :
    Ready P Good (TokenState.reopen s) :=
  ⟨fun _ => rfl, h.readable, by rw [row_congr (reopen_committed s)]; exact h.good⟩

/-- What a call answers is about the row with its defaults. -/
theorem TokenCall.Answers.getD {k : TokenCall} {current : Option Row} {a : TokenAnswer}
    (h : k.Answers current a) : k.Answers (some (current.getD {})) a := by
  cases current with
  | some r => exact h
  | none => cases k <;> exact h

/-- What a call wrote is read back. -/
theorem ReadsBack.wrote (hback : ReadsBack P Good ρ) {k : TokenCall} {s s' : TokenState Blob}
    {τ : List (TokenEvent Blob)} {v : PyVal} {current : Option Row} (hgood : Good (row P s).sealed)
    (hcurrent : stored P (s .kv).committed = .ok current) (hseals : k.Seals P τ v)
    (hw : Writes P (s .kv).committed (k.write v current) (s' .kv).committed) :
    ((s' .kv).Settled → Ready P Good s') ∧
    (∀ key, key ≠ stateKey → (s' .kv).committed.get? key = (s .kv).committed.get? key) ∧
    row P s' = ((k.write v (some (row P s))).map ρ).getD (row P s) ∧
    ((s' .kv).committed = (s .kv).committed ∨
      ∃ w, k.write v (some (row P s)) = some w ∧ row P s' = ρ w) := by
  rw [write_getD, ← row_eq hcurrent] at hw
  cases hwrite : k.write v (some (row P s)) with
  | none =>
      rw [hwrite] at hw
      have hsame : (s' .kv).committed = (s .kv).committed := hw
      have hrow := row_congr (P := P) hsame
      refine ⟨fun hsettled => ⟨hsettled, ?_, ?_⟩, fun key _ => by rw [hsame], hrow, .inl hsame⟩
      · exact ⟨current, by rw [hsame, hcurrent]⟩
      · rw [hrow]
        exact hgood
  | some w =>
      rw [hwrite] at hw
      have hw' := hback.write hseals hwrite hgood
      have hstored := hw.stored hback hw'
      have hrow : row P s' = ρ w := row_eq hstored
      refine ⟨fun hsettled => ⟨hsettled, ⟨_, hstored⟩, ?_⟩, fun key hkey => hw.other hkey, hrow,
        .inr ⟨w, rfl, hrow⟩⟩
      rw [hrow]
      exact hback.reread w hw'

theorem call_steps (hback : ReadsBack P Good ρ) {k : TokenCall} {s s' : TokenState Blob}
    {τ : List (TokenEvent Blob)} {out : Outcome Exc TokenAnswer} (hs : Ready P Good s)
    (hexec : Exec (tokenEnv Blob) (k.run P) s τ out s') :
    Stepped P Good ρ k s τ out (out.resume TokenState.reopen s') := by
  obtain ⟨hsettled, ⟨current, hcurrent⟩, hgood⟩ := hs
  obtain ⟨hmidway, hfinishes⟩ := hexec.sound (call_meets k hsettled hcurrent)
  have hrow := row_eq hcurrent
  -- Nothing was written.
  have hready : ∀ s₁ : TokenState Blob, (s₁ .kv).Settled →
      (s₁ .kv).committed = (s .kv).committed → Ready P Good s₁ := by
    intro s₁ hsettled₁ hsame
    exact ⟨hsettled₁, ⟨current, by rw [hsame, hcurrent]⟩, by rw [row_congr hsame]; exact hgood⟩
  cases out with
  | stopped =>
      have hmid : k.Midway P current s τ s' := by
        by_cases hτ : τ = []
        · subst hτ
          exact .inl (by rw [hexec.state_eq_of_nil rfl])
        · exact hmidway hτ
      rcases hmid with hsame | ⟨v, hseals, hw⟩
      · exact ⟨hready _ (fun _ => rfl) hsame,
          fun key _ => by rw [Outcome.resume, reopen_committed, hsame], .inl hsame, nofun, nofun⟩
      · have hreopened : Writes P (s .kv).committed (k.write v current)
            (TokenState.reopen s' .kv).committed := hw
        obtain ⟨hreadable, hothers, -, hwrote⟩ := hback.wrote hgood hcurrent hseals hreopened
        refine ⟨hreadable fun _ => rfl, hothers, ?_, nofun, nofun⟩
        rcases hwrote with hsame | ⟨w, hwrite, hrow'⟩
        · exact .inl hsame
        · exact .inr ⟨v, w, hseals, hwrite, hrow'⟩
  | done r =>
      have hfin := hfinishes r rfl
      cases r with
      | error e =>
          obtain ⟨hsame, hrefused⟩ := hfin.raised e rfl
          refine ⟨hready _ hfin.settled hsame, fun key _ => by rw [Outcome.resume, hsame],
            .inl hsame, nofun, fun e' he' => ?_⟩
          cases he'
          rw [hrow]
          exact ⟨hsame, hrefused⟩
      | ok a =>
          obtain ⟨hanswers, v, hseals, hw⟩ := hfin.returned a rfl
          obtain ⟨hreadable, hothers, hrow', hwrote⟩ := hback.wrote hgood hcurrent hseals hw
          refine ⟨hreadable hfin.settled, hothers, ?_, fun a' ha' => ?_, nofun⟩
          · rcases hwrote with hsame | ⟨w, hwrite, hrow''⟩
            · exact .inl hsame
            · exact .inr ⟨v, w, hseals, hwrite, hrow''⟩
          · cases ha'
            exact ⟨hrow ▸ hanswers.getD, v, hseals, hrow'⟩

/-- The row after a call is the row before it, or reads back what the call may leave over it. -/
theorem Stepped.frame {k : TokenCall} {s s' : TokenState Blob} {τ : List (TokenEvent Blob)}
    {out : Outcome Exc TokenAnswer} (h : Stepped P Good ρ k s τ out s') :
    row P s' = row P s ∨
      ∃ v w, k.Seals P τ v ∧ Frame k v (row P s) w ∧ row P s' = ρ w := by
  rcases h.wrote with hsame | ⟨v, w, hseals, hwrite, hrow⟩
  · exact .inl (row_congr hsame)
  · exact .inr ⟨v, w, hseals, .of_write hwrite, hrow⟩

end GmailGateway
