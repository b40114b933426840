import GmailGateway.Gateway.TokenRefresh
import GmailGateway.Keystore.Sealing

/-!
# GmailGateway.Gateway.RefreshSpec

**One call of the token provider.** What `access_token` can do with a record that opens is a closed
list of cases (`Accessed`): which readings of the clock and which answer of the endpoint it took,
what it returned or raised, and what the backend holds afterwards. Everything about refreshing is
read off this list.
-/

namespace GmailGateway

open Effect Proc Python

/-- What the endpoint does: it answers with a status and a body, or the transport raises. -/
abbrev EndpointAnswer := Except Exc (Int × Bytes)

/-! ### The surroundings -/

/-- What the backend holds. -/
abbrev Records := PyStr → Option PyVal

/-- A key provider that hands out `dek`, and nonces of the right length. -/
def keystoreEnv (dek : Bytes) : Env KeystoreSig Exc Unit :=
  anyAnswer fun
    | .getDek, r => r = .ok dek
    | .nonce, r => ∃ nonce : Bytes, r = .ok nonce ∧ nonce.length = nonceLen

/-- A backend that does not fail. -/
def recordEnv (dek : Bytes) : Env TokenRecordSig Exc Records
  | s, .get key, r, s' => r = .ok (s key) ∧ s' = s
  | s, .put key value, r, s' => r = .ok () ∧ s' = Function.update s key (some value)
  | s, .keystore o, r, s' => keystoreEnv dek () o r () ∧ s' = s

/-- The clock and the endpoint answer anything, and the transport may raise anything. -/
def refreshEnv (dek : Bytes) : Env RefreshSig Exc Records
  | s, .record o, r, s' => recordEnv dek s o r s'
  | s, .now, r, s' => (∃ t, r = .ok t) ∧ s' = s
  | s, .post _ _ _, _, s' => s' = s

/-- A reading of the clock. -/
def RefreshEvent.tick? : RefreshEvent → Option Int
  | ⟨.now, .ok t⟩ => some t
  | _ => none

def RefreshEvent.answer? : RefreshEvent → Option EndpointAnswer
  | ⟨.post _ _ _, a⟩ => some a
  | _ => none

/-- The readings of the clock, oldest first. -/
def ticks (τ : List RefreshEvent) : List Int := τ.filterMap RefreshEvent.tick?

/-- The answers of the endpoint, oldest first. -/
def endpointAnswers (τ : List RefreshEvent) : List EndpointAnswer :=
  τ.filterMap RefreshEvent.answer?

@[simp] theorem ticks_append (τ τ' : List RefreshEvent) : ticks (τ ++ τ') = ticks τ ++ ticks τ' :=
  List.filterMap_append

@[simp] theorem endpointAnswers_append (τ τ' : List RefreshEvent) :
    endpointAnswers (τ ++ τ') = endpointAnswers τ ++ endpointAnswers τ' := List.filterMap_append

@[simp] theorem ticks_record (o : TokenRecordOp) (a : Except Exc o.Ret) :
    ticks [⟨.record o, a⟩] = [] := rfl

@[simp] theorem endpointAnswers_record (o : TokenRecordOp) (a : Except Exc o.Ret) :
    endpointAnswers [⟨.record o, a⟩] = [] := rfl

@[simp] theorem ticks_now (t : Int) : ticks [⟨.now, .ok t⟩] = [t] := rfl

@[simp] theorem endpointAnswers_now (a : Except Exc Int) : endpointAnswers [⟨.now, a⟩] = [] := rfl

@[simp] theorem ticks_post (url : PyStr) (headers : List (PyStr × PyStr)) (body : Bytes)
    (a : EndpointAnswer) : ticks [⟨.post url headers body, a⟩] = [] := rfl

@[simp] theorem endpointAnswers_post (url : PyStr) (headers : List (PyStr × PyStr)) (body : Bytes)
    (a : EndpointAnswer) : endpointAnswers [⟨.post url headers body, a⟩] = [a] := rfl

/-- Nothing but the store of the record was asked. -/
def Unasked (τ τ' : List RefreshEvent) : Prop :=
  ticks τ' = ticks τ ∧ endpointAnswers τ' = endpointAnswers τ

/-- What the key store guarantees, the backend does. -/
theorem sat_onKeystore {α : Type} {dek : Bytes} {p : KeystoreProc α} {Q : Except Exc α → Prop}
    (hp : p.sat (keystoreEnv dek) (fun _ _ => True) (fun x _ _ => Q x) [] ()) {s : Records}
    {τ : List (Event TokenRecordSig Exc)} :
    (onKeystore p).sat (recordEnv dek) (fun _ s' => s' = s) (fun x _ s' => Q x ∧ s' = s) τ s := by
  refine sat_mono (sat_implement (R := fun _ _ _ t => t = s) ?_ hp rfl) ?_
  · intro o τ u θ t _ ht r t' hw
    obtain ⟨hanswer, rfl⟩ := hw
    exact ⟨ht, (sat_embed r).mpr ⟨(), hanswer, ht⟩⟩
  · intro x θ t h
    obtain ⟨_, _, ht, hx⟩ := h
    exact ⟨hx, ht⟩

/-- What the backend guarantees, the provider's surroundings do. -/
theorem sat_onRecord {α : Type} {dek : Bytes} {p : TokenRecordProc α}
    {Q : Except Exc α → Records → Prop} {s : Records}
    (hp : p.sat (recordEnv dek) (fun _ _ => True) (fun x _ s' => Q x s') [] s)
    {τ : List RefreshEvent} :
    (onRecord p).sat (refreshEnv dek) (fun _ _ => True)
      (fun x τ' s' => Q x s' ∧ Unasked τ τ') τ s := by
  refine sat_mono (sat_implement (R := fun _ s θ t => t = s ∧ Unasked τ θ) ?_ hp ⟨rfl, rfl, rfl⟩) ?_
  · intro o τ' s θ t _ ht r t' hw
    obtain ⟨rfl, hticks, hanswers⟩ := ht
    refine ⟨trivial, (sat_embed r).mpr ⟨t', hw, rfl, ?_, ?_⟩⟩
    · rw [ticks_append, hticks, ticks_record, List.append_nil]
    · rw [endpointAnswers_append, hanswers, endpointAnswers_record, List.append_nil]
  · intro x θ t h
    obtain ⟨_, _, ⟨rfl, hunasked⟩, hx⟩ := h
    exact ⟨hx, hunasked⟩

/-! ### The store -/

section Store
variable {json : JsonCodec PyVal Bytes} {gcm : AesGcm} {dek : Bytes} {s : Records}
  {τ : List RefreshEvent} {record : Dict}

/-- The record opens under the key, as `record`. -/
def Opens (json : JsonCodec PyVal Bytes) (gcm : AesGcm) (dek : Bytes) (s : Records)
    (record : Dict) : Prop :=
  ∃ raw r plaintext v, s SendPath.SealedTokenStore.recordKey = some raw ∧
    SealedRecord.fromDict raw = .ok r ∧ r.decrypted? gcm dek = some plaintext ∧
      json.loads plaintext = .ok v ∧ SendPath.SealedTokenStore.checkToken raw v = .ok record

/-- What opens has a token that is a string. -/
theorem Opens.accessToken (h : Opens json gcm dek s record) :
    ∃ token, record.get? (str "access_token") = some (.str token) := by
  obtain ⟨raw, r, plaintext, v, -, -, -, -, hcheck⟩ := h
  obtain ⟨data, -, hcheck⟩ := bind_eq_ok.mp hcheck
  split at hcheck
  · rename_i token htoken
    obtain ⟨_, -, hcheck⟩ := bind_eq_ok.mp hcheck
    obtain ⟨_, -, hrecord⟩ := bind_eq_ok.mp hcheck
    cases hrecord
    refine ⟨token, ?_⟩
    cases hget : record.get? (str "access_token") with
    | none =>
        rw [Dict.get, hget] at htoken
        cases htoken
    | some token' =>
        rw [Dict.get, hget] at htoken
        cases htoken
        rfl
  · cases hcheck

theorem openRecord_opens {r : SealedRecord} {plaintext : Bytes}
    (hdecrypted : r.decrypted? gcm dek = some plaintext) :
    (AEADCipher.openRecord gcm r).sat (keystoreEnv dek) (fun _ _ => True)
      (fun x _ _ => x = .ok plaintext) [] () := by
  rw [SealedRecord.decrypted?] at hdecrypted
  split at hdecrypted
  · cases hdecrypted
  · rename_i hdek
    obtain ⟨tag, htag, hdecrypt⟩ := Option.bind_eq_some_iff.mp hdecrypted
    have hok : aad r.recordType r.version = .ok tag := by
      cases haad : aad r.recordType r.version with
      | error e =>
          rw [haad] at htag
          cases htag
      | ok tag' =>
          rw [haad] at htag
          cases htag
          rfl
    rw [AEADCipher.openRecord, hok, sat_bind, sat_embed, andThen_ok, sat_bind, requireDek, sat_bind,
      sat_perform]
    intro x _ hx
    refine ⟨trivial, ?_⟩
    cases hx
    rw [andThen_ok, sat_bind, sat_raiseIf]
    refine ⟨fun h => absurd h hdek, fun _ => ?_⟩
    rw [andThen_ok, sat_pure, andThen_ok, hdecrypt]
    rfl

/-- What a record is sealed as, and under which nonce. -/
def SealedUnder (gcm : AesGcm) (dek plaintext : Bytes) (recordType version : PyVal)
    (r : SealedRecord) : Prop :=
  r.recordType = recordType ∧ r.version = version ∧ r.nonce.length = nonceLen ∧
    ∃ tag, aad recordType version = .ok tag ∧
      gcm.encrypt dek r.nonce plaintext tag = .ok r.ciphertext

theorem sealRecord_seals (hideal : gcm.IdealAead) (hdek : dek.length = dekLen) {plaintext tag : Bytes}
    {recordType version : PyVal} (htag : aad recordType version = .ok tag) :
    (AEADCipher.sealRecord gcm plaintext recordType version).sat (keystoreEnv dek)
      (fun _ _ => True)
      (fun x _ _ => ∃ r, x = .ok r ∧ SealedUnder gcm dek plaintext recordType version r) [] () := by
  rw [AEADCipher.sealRecord, htag, sat_bind, sat_embed, andThen_ok, sat_bind, sat_perform]
  intro x _ hx
  refine ⟨trivial, ?_⟩
  obtain ⟨nonce, rfl, hnonce⟩ := hx
  rw [andThen_ok, sat_bind, sat_raiseIf]
  refine ⟨fun h => absurd hnonce h, fun _ => ?_⟩
  rw [andThen_ok, sat_bind, requireDek, sat_bind, sat_perform]
  intro x _ hx
  refine ⟨trivial, ?_⟩
  cases hx
  rw [andThen_ok, sat_bind, sat_raiseIf]
  refine ⟨fun h => absurd hdek h, fun _ => ?_⟩
  obtain ⟨ciphertext, hencrypt⟩ := hideal.encrypts plaintext tag hdek hnonce
  rw [andThen_ok, sat_pure, andThen_ok, hencrypt]
  exact ⟨_, rfl, rfl, rfl, hnonce, tag, htag, hencrypt⟩

theorem openToken_opens (hopens : Opens json gcm dek s record)
    {τ : List (Event TokenRecordSig Exc)} :
    (SendPath.SealedTokenStore.openToken json gcm).sat (recordEnv dek)
      (fun _ _ => True) (fun x _ s' => x = .ok record ∧ s' = s) τ s := by
  obtain ⟨raw, r, plaintext, v, hraw, hrecord, hdecrypted, hloads, hcheck⟩ := hopens
  rw [SendPath.SealedTokenStore.openToken, sat_bind, sat_perform]
  intro x s' hx
  refine ⟨trivial, ?_⟩
  obtain ⟨rfl, rfl⟩ := hx
  rw [andThen_ok, hraw]
  split
  · rename_i heq
    cases heq
  · rename_i heq
    cases heq
    cases hrecord
  · rename_i heq
    cases heq
    rw [sat_bind, hrecord, sat_embed, andThen_ok, sat_bind]
    refine sat_mono (sat_weaken (sat_onKeystore (openRecord_opens hdecrypted))
      (fun _ _ _ => trivial) fun _ _ _ h => h) ?_
    intro x τ s' hx
    obtain ⟨rfl, rfl⟩ := hx
    rw [andThen_ok, sat_bind, hloads, sat_embed, andThen_ok, hcheck, sat_embed]
    exact ⟨rfl, rfl⟩

/-- The store writes the sealed token, unless it cannot be rendered. -/
theorem store_meets (hideal : gcm.IdealAead) (hdek : dek.length = dekLen)
    {token : SendPath.SealedTokenStore.Token} {writeOrigin : PyStr}
    (horigin : writeOrigin ∈ SendPath.SealedTokenStore.writeOrigins)
    {τ : List (Event TokenRecordSig Exc)} :
    (SendPath.SealedTokenStore.store json gcm token writeOrigin).sat (recordEnv dek)
      (fun _ _ => True) (fun x _ s' =>
        (∃ e, json.dumps (token.blob writeOrigin) = .error e ∧ x = .error e ∧ s' = s) ∨
        ∃ plaintext r, json.dumps (token.blob writeOrigin) = .ok plaintext ∧
          SealedUnder gcm dek plaintext SendPath.SealedTokenStore.recordType
            SendPath.SealedTokenStore.version r ∧ x = .ok () ∧
          s' = Function.update s SendPath.SealedTokenStore.recordKey
            (some (token.record writeOrigin r))) τ s := by
  rw [SendPath.SealedTokenStore.store, sat_bind, sat_raiseIf]
  refine ⟨fun h => absurd horigin h, fun _ => ?_⟩
  rw [andThen_ok, sat_bind, sat_embed]
  cases hdumps : json.dumps (token.blob writeOrigin) with
  | error e => exact .inl ⟨e, rfl, rfl, rfl⟩
  | ok plaintext =>
      obtain ⟨tag, htag⟩ : ∃ tag, aad SendPath.SealedTokenStore.recordType
          SendPath.SealedTokenStore.version = .ok tag := ⟨_, rfl⟩
      rw [andThen_ok, sat_bind]
      refine sat_mono (sat_weaken (sat_onKeystore (sealRecord_seals hideal hdek htag))
        (fun _ _ _ => trivial) fun _ _ _ h => h) ?_
      intro x τ s' hx
      obtain ⟨⟨r, rfl, hseals⟩, rfl⟩ := hx
      rw [andThen_ok]
      intro x s'' hx
      obtain ⟨rfl, rfl⟩ := hx
      exact ⟨trivial, .inr ⟨plaintext, r, rfl, hseals, rfl, rfl⟩⟩

end Store

/-! ### One call -/

namespace RefreshingTokenProvider
variable (provider : RefreshingTokenProvider)

/-- The token that a refresh at `refreshedAt` leaves for `result`. -/
def merged (record : Dict) (result : TokenResult) (refreshedAt : Int) :
    SendPath.SealedTokenStore.Token where
  accessToken := .str result.accessToken
  issuedAt := .int refreshedAt
  expiresAt := match result.expiresIn with
    | some expiresIn => .int (refreshedAt + expiresIn)
    | none => .none
  refreshToken := SendPath.SealedTokenStore.orElse result.refreshToken
    (record.get (str "refresh_token"))
  clientId := record.get (str "client_id")
  clientSecret := record.get (str "client_secret")
  scope := SendPath.SealedTokenStore.orElse result.scope (record.get (str "scope"))

/-- The form of the refresh request. -/
def requestBody (record : Dict) : Except Exc Bytes := do
  let (refreshToken, clientId, clientSecret) ← refreshInputs record
  let request ← buildRefreshTokenRequest refreshToken clientId clientSecret
  formBody request.body

/-- What comes of an exception of the client. -/
def transportFailure : Exc → Exc
  | .egressBlocked _ _ | .timeout _ | .urlError _ | .osError _ =>
      .oauth .tokenRefresh (str "token refresh transport failed")
  | e => e

def responseOf (a : Int × Bytes) : HttpResponse :=
  { status := a.1, body := a.2, host := str "oauth2.googleapis.com" }

/-- The token is not fresh, as far as the clock was read. -/
def Stale (record : Dict) : List Int → Prop
  | [] => ∀ expiresAt, record.get (str "expires_at") ≠ .int expiresAt
  | [now] => ∃ expiresAt, record.get (str "expires_at") = .int expiresAt ∧
      ¬ now < expiresAt - provider.refreshSkewSeconds
  | _ => False

/-- What a call did: the readings of the clock and the answers of the endpoint, the result, and
what the backend holds afterwards. -/
inductive Accessed (dek : Bytes) (record : Dict) (s : Records) :
    List Int → List EndpointAnswer → Except Exc PyVal → Records → Prop
  | fresh {expiresAt now : Int} {token : PyStr} :
      record.get (str "expires_at") = .int expiresAt →
      now < expiresAt - provider.refreshSkewSeconds →
      record.get? (str "access_token") = some (.str token) →
      Accessed dek record s [now] [] (.ok (.str token)) s
  /-- Nothing is asked for. -/
  | unasked {now : List Int} {e : Exc} : provider.Stale record now →
      requestBody record = .error e → Accessed dek record s now [] (.error e) s
  | unanswered {now : List Int} {body : Bytes} {e : Exc} : provider.Stale record now →
      requestBody record = .ok body →
      Accessed dek record s now [.error e] (.error (transportFailure e)) s
  | unusable {now : List Int} {body : Bytes} {a : Int × Bytes} {e : Exc} :
      provider.Stale record now → requestBody record = .ok body →
      readResponse provider.json.loads (responseOf a) = .error e →
      Accessed dek record s now [.ok a] (.error e) s
  | unstored {now : List Int} {body : Bytes} {a : Int × Bytes} {result : TokenResult}
      {refreshedAt : Int} {e : Exc} :
      provider.Stale record now → requestBody record = .ok body →
      readResponse provider.json.loads (responseOf a) = .ok result →
      provider.json.dumps ((merged record result refreshedAt).blob (str "refresh")) = .error e →
      Accessed dek record s (now ++ [refreshedAt]) [.ok a] (.error e) s
  | refreshed {now : List Int} {body : Bytes} {a : Int × Bytes} {result : TokenResult}
      {refreshedAt : Int} {plaintext : Bytes} {r : SealedRecord} :
      provider.Stale record now → requestBody record = .ok body →
      readResponse provider.json.loads (responseOf a) = .ok result →
      provider.json.dumps ((merged record result refreshedAt).blob (str "refresh")) =
        .ok plaintext →
      SealedUnder provider.gcm dek plaintext SendPath.SealedTokenStore.recordType
        SendPath.SealedTokenStore.version r →
      Accessed dek record s (now ++ [refreshedAt]) [.ok a] (.ok (.str result.accessToken))
        (Function.update s SendPath.SealedTokenStore.recordKey
          (some ((merged record result refreshedAt).record (str "refresh") r)))

/-- What the constructor asks of its surroundings: `urlsplit` reads the endpoint. -/
def EndpointSplits : Prop :=
  provider.library.urlsplit defaultTokenEndpoint =
    .ok (str "https", some (str "oauth2.googleapis.com"))

variable {provider} {dek : Bytes} {record : Dict} {s : Records}

theorem checkHost_endpoint (hsplit : provider.EndpointSplits) :
    provider.client.checkHost provider.library defaultTokenEndpoint =
      .ok (str "oauth2.googleapis.com") := by
  rw [EgressGuardedClient.checkHost, hsplit, provider.allow_eq]
  rfl

/-- Posting the form is invoking the transport. -/
theorem request_endpoint (hsplit : provider.EndpointSplits) (body : Bytes) :
    (provider.client.request provider.library defaultTokenEndpoint formHeaders body).implement
        refreshTransport =
      (do
        let a ← perform (S := RefreshSig) (.post defaultTokenEndpoint formHeaders body)
        pure (responseOf a)) := by
  rw [EgressGuardedClient.request, checkHost_endpoint hsplit, implement_bind, implement_embed]
  change (perform (S := TransportSig) (.post defaultTokenEndpoint formHeaders body) >>= fun a =>
    pure (responseOf a)).implement refreshTransport = _
  rw [implement_bind, implement_perform]
  rfl

theorem buildRefreshTokenRequest_endpoint {refreshToken clientId : PyStr}
    {clientSecret : Option PyStr} {request : RefreshTokenRequest}
    (h : buildRefreshTokenRequest refreshToken clientId clientSecret = .ok request) :
    request.endpoint = defaultTokenEndpoint := by
  obtain ⟨_, -, h⟩ := bind_eq_ok.mp h
  obtain ⟨_, -, h⟩ := bind_eq_ok.mp h
  cases h
  rfl

theorem formBody_error {body : List (PyStr × PyStr)} {e : Exc} (h : formBody body = .error e) :
    e = .unicodeEncodeError := by
  unfold formBody at h
  split at h
  · cases h
  · exact (Except.error.inj h).symm

theorem replaceAccessToken_meets (hideal : provider.gcm.IdealAead) (hdek : dek.length = dekLen)
    (hopens : Opens provider.json provider.gcm dek s record) (result : TokenResult)
    (refreshedAt : Int) :
    (SendPath.SealedTokenStore.replaceAccessToken provider.json provider.gcm
      (.str result.accessToken) (.int refreshedAt) (merged record result refreshedAt).expiresAt
        result.refreshToken result.scope).sat (recordEnv dek) (fun _ _ => True) (fun x _ s' =>
      (∃ e, provider.json.dumps ((merged record result refreshedAt).blob (str "refresh")) =
        .error e ∧ x = .error e ∧ s' = s) ∨
      ∃ plaintext r, provider.json.dumps ((merged record result refreshedAt).blob (str "refresh")) =
          .ok plaintext ∧
        SealedUnder provider.gcm dek plaintext SendPath.SealedTokenStore.recordType
          SendPath.SealedTokenStore.version r ∧ x = .ok () ∧
        s' = Function.update s SendPath.SealedTokenStore.recordKey
          (some ((merged record result refreshedAt).record (str "refresh") r))) [] s := by
  rw [SendPath.SealedTokenStore.replaceAccessToken, sat_bind]
  refine sat_mono (openToken_opens hopens) ?_
  intro x τ s' hx
  obtain ⟨rfl, rfl⟩ := hx
  rw [andThen_ok]
  exact store_meets hideal hdek (by decide)

/-- The rest of a refresh, from the answer of the endpoint on. -/
theorem refresh_answered (hideal : provider.gcm.IdealAead) (hdek : dek.length = dekLen)
    (hopens : Opens provider.json provider.gcm dek s record) {now : List Int}
    (hstale : provider.Stale record now) {body : Bytes} (hbody : requestBody record = .ok body)
    {a : Int × Bytes} {τ : List RefreshEvent} (hticks : ticks τ = now)
    (hanswers : endpointAnswers τ = [.ok a]) :
    andThen (fun result => Proc.sat (refreshEnv dek) (fun _ _ => True)
        (fun x τ' s' => provider.Accessed dek record s (ticks τ') (endpointAnswers τ') x s')
        (do
          let refreshedAt ← perform (S := RefreshSig) .now
          onRecord (SendPath.SealedTokenStore.replaceAccessToken provider.json provider.gcm
            (.str result.accessToken) (.int refreshedAt) (merged record result refreshedAt).expiresAt
              result.refreshToken result.scope)
          pure (.str result.accessToken)))
      (fun e τ' s' => provider.Accessed dek record s (ticks τ') (endpointAnswers τ') (.error e) s')
      (readResponse provider.json.loads (responseOf a)) τ s := by
  cases hread : readResponse provider.json.loads (responseOf a) with
  | error e =>
      rw [andThen_error, hticks, hanswers]
      exact .unusable hstale hbody hread
  | ok result =>
      rw [andThen_ok, sat_bind, sat_perform]
      intro r s' hw
      obtain ⟨⟨refreshedAt, rfl⟩, rfl⟩ := hw
      refine ⟨trivial, ?_⟩
      rw [andThen_ok, sat_bind]
      refine sat_mono (sat_onRecord (replaceAccessToken_meets hideal hdek hopens result refreshedAt)) ?_
      intro x τ' s'' hx
      obtain ⟨hx, hunasked⟩ := hx
      have hticks' : ticks τ' = now ++ [refreshedAt] := by
        rw [hunasked.1, ticks_append, hticks, ticks_now]
      have hanswers' : endpointAnswers τ' = [.ok a] := by
        rw [hunasked.2, endpointAnswers_append, hanswers, endpointAnswers_now, List.append_nil]
      rcases hx with ⟨e, hdumps, rfl, rfl⟩ | ⟨plaintext, r, hdumps, hseals, rfl, rfl⟩
      · rw [andThen_error, hticks', hanswers']
        exact .unstored hstale hbody hread hdumps
      · rw [andThen_ok, sat_pure, hticks', hanswers']
        exact .refreshed hstale hbody hread hdumps hseals

theorem refresh_meets (hideal : provider.gcm.IdealAead) (hdek : dek.length = dekLen)
    (hsplit : provider.EndpointSplits) (hopens : Opens provider.json provider.gcm dek s record)
    {now : List Int} (hstale : provider.Stale record now) {τ : List RefreshEvent}
    (hticks : ticks τ = now) (hanswers : endpointAnswers τ = []) :
    (provider.refresh record).sat (refreshEnv dek) (fun _ _ => True)
      (fun x τ' s' => provider.Accessed dek record s (ticks τ') (endpointAnswers τ') x s') τ s := by
  rw [refresh, sat_bind, sat_embed]
  cases hinputs : refreshInputs record with
  | error e =>
      rw [andThen_error, hticks, hanswers]
      exact .unasked hstale (by rw [requestBody, hinputs]; rfl)
  | ok inputs =>
      obtain ⟨refreshToken, clientId, clientSecret⟩ := inputs
      rw [andThen_ok]
      dsimp only
      rw [sat_bind, sat_embed]
      cases hrequest : buildRefreshTokenRequest refreshToken clientId clientSecret with
      | error e =>
          rw [andThen_error, hticks, hanswers]
          refine .unasked hstale ?_
          rw [requestBody, hinputs]
          change buildRefreshTokenRequest refreshToken clientId clientSecret >>= _ = _
          rw [hrequest]
          rfl
      | ok request =>
          have hrequestBody : requestBody record = formBody request.body := by
            rw [requestBody, hinputs]
            change buildRefreshTokenRequest refreshToken clientId clientSecret >>= _ = _
            rw [hrequest]
            rfl
          rw [andThen_ok, sat_bind, sat_handle, sat_bind, sat_embed]
          cases hbody : formBody request.body with
          | error e =>
              obtain rfl := formBody_error hbody
              change provider.Accessed dek record s (ticks τ) (endpointAnswers τ) _ s
              rw [hticks, hanswers]
              exact .unasked hstale (hrequestBody.trans hbody)
          | ok body =>
              rw [andThen_ok, buildRefreshTokenRequest_endpoint hrequest, request_endpoint hsplit,
                sat_bind, sat_perform]
              intro a s' hw
              obtain rfl : s' = s := hw
              refine ⟨trivial, ?_⟩
              have hticks' : ticks (τ ++ [⟨.post defaultTokenEndpoint formHeaders body, a⟩]) = now := by
                rw [ticks_append, hticks]
                exact List.append_nil now
              have hanswers' : endpointAnswers
                  (τ ++ [⟨.post defaultTokenEndpoint formHeaders body, a⟩]) = [a] := by
                rw [endpointAnswers_append, hanswers]
                rfl
              have hposted := hrequestBody.trans hbody
              cases a with
              | error e =>
                  rw [andThen_error, andThen_error]
                  have hunanswered : provider.Accessed dek record s' now [.error e]
                      (.error (transportFailure e)) s' := .unanswered hstale hposted
                  rw [← hticks', ← hanswers'] at hunanswered
                  cases e <;> exact hunanswered
              | ok a =>
                  rw [andThen_ok, sat_pure, andThen_ok, andThen_ok, sat_bind, sat_embed]
                  exact refresh_answered hideal hdek hopens hstale hposted hticks' hanswers'

theorem subscript_accessToken {token : PyStr}
    (h : record.get? (str "access_token") = some (.str token)) :
    subscript (.dict record) "access_token" = .ok (.str token) := by
  simp only [subscript, expectDict, bind, Except.bind, h]
  rfl

/-- **One call.** -/
theorem accessToken_meets (hideal : provider.gcm.IdealAead) (hdek : dek.length = dekLen)
    (hsplit : provider.EndpointSplits) (hopens : Opens provider.json provider.gcm dek s record) :
    provider.accessToken.sat (refreshEnv dek) (fun _ _ => True)
      (fun x τ s' => provider.Accessed dek record s (ticks τ) (endpointAnswers τ) x s') [] s := by
  rw [accessToken, sat_bind]
  refine sat_mono (sat_onRecord (openToken_opens hopens)) ?_
  intro x τ s' hx
  obtain ⟨⟨rfl, rfl⟩, hticks, hanswers⟩ := hx
  rw [andThen_ok]
  have hrefresh : ∀ now τ, provider.Stale record now → ticks τ = now → endpointAnswers τ = [] →
      (provider.refresh record).sat (refreshEnv dek) (fun _ _ => True)
        (fun x τ' s'' => provider.Accessed dek record s' (ticks τ') (endpointAnswers τ') x s'') τ s' :=
    fun now τ hstale hticks hanswers => refresh_meets hideal hdek hsplit hopens hstale hticks hanswers
  split
  · rename_i expiresAt hexpires
    rw [sat_bind, sat_perform]
    intro r s'' hw
    obtain ⟨⟨now, rfl⟩, rfl⟩ := hw
    refine ⟨trivial, ?_⟩
    have hticks' : ticks (τ ++ [⟨.now, .ok now⟩]) = [now] := by
      rw [ticks_append, hticks]
      rfl
    have hanswers' : endpointAnswers (τ ++ [⟨.now, .ok now⟩]) = [] := by
      rw [endpointAnswers_append, hanswers]
      rfl
    rw [andThen_ok]
    split
    · rename_i hfresh
      obtain ⟨token, htoken⟩ := hopens.accessToken
      rw [sat_embed, subscript_accessToken htoken, hticks', hanswers']
      exact .fresh hexpires hfresh htoken
    · rename_i hstale
      exact hrefresh [now] _ ⟨expiresAt, hexpires, hstale⟩ hticks' hanswers'
  · rename_i hexpires
    exact hrefresh [] _ hexpires hticks hanswers

end RefreshingTokenProvider

end GmailGateway
