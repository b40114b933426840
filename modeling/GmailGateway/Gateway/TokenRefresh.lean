import GmailGateway.Gateway.Egress
import GmailGateway.Gateway.SendPath
import GmailGateway.Python.Urllib

/-!
# GmailGateway.Gateway.TokenRefresh

The token provider of the send path (`gateway/token_refresh.py`): it hands out the access token of
the sealed record, and refreshes it first where it is about to expire. The request of the refresh
grant is built in `oauth/token_request.py`, and the response read in `gateway/oauth_listener.py`.

A response is untrusted JSON. Of its fields only the access token and the expiry are checked for
their type.
-/

namespace GmailGateway

open Effect Proc Python

/-! ### The collaborators -/

/-- What the token provider performs. -/
inductive RefreshOp
  /-- On the backend of the sealed record, its key provider or nonce factory. -/
  | record (recordOp : TokenRecordOp)
  | now
  /-- Invoke the transport of the token endpoint. -/
  | post (url : PyStr) (headers : List (PyStr × PyStr)) (body : Bytes)

/-- The answers of record, clock and endpoint. -/
abbrev RefreshOp.Ret : RefreshOp → Type
  | .record recordOp => recordOp.Ret
  | .now => Int
  | .post _ _ _ => Int × Bytes

/-- The sealed record, the clock and the token endpoint. -/
abbrev RefreshSig : Signature := ⟨RefreshOp, RefreshOp.Ret⟩

/-- An operation with its answer. -/
abbrev RefreshEvent := Event RefreshSig Exc

/-- What the methods of the token provider are. -/
abbrev RefreshProc (α : Type) := Proc RefreshSig Exc α

/-- A procedure of the sealed token store. -/
abbrev onRecord {α : Type} (p : TokenRecordProc α) : RefreshProc α :=
  p.implement fun recordOp => perform (S := RefreshSig) (.record recordOp)

/-- The transport of the egress client is the provider's own. -/
def refreshTransport : (o : TransportOp) → RefreshProc o.Ret
  | .post url headers body => perform (S := RefreshSig) (.post url headers body)

/-! ### The request -/

/-- `DEFAULT_TOKEN_ENDPOINT`. -/
def defaultTokenEndpoint : PyStr := str "https://oauth2.googleapis.com/token"

/-- `V1_ALLOWED_SCOPES`. -/
def v1AllowedScopes : List PyStr := [str "https://www.googleapis.com/auth/gmail.send"]

/-- `RefreshTokenRequest`: where to post, and the form. -/
structure RefreshTokenRequest where
  endpoint : PyStr
  body : List (PyStr × PyStr)

/-- `build_refresh_token_request`: the secret is in the form only if there is one. -/
def buildRefreshTokenRequest (refreshToken clientId : PyStr) (clientSecret : Option PyStr) :
    Except Exc RefreshTokenRequest := do
  rejectIf (refreshToken = []) .valueError
  rejectIf (clientId = []) .valueError
  let body := [(str "grant_type", str "refresh_token"), (str "refresh_token", refreshToken),
    (str "client_id", clientId)]
  pure { endpoint := defaultTokenEndpoint
         body := body ++ (clientSecret.map fun secret => (str "client_secret", secret)).toList }

/-- `urlencode(body).encode("utf-8")`. -/
def formBody (body : List (PyStr × PyStr)) : Except Exc Bytes :=
  match urlencode body with
  | some text => pure (text.flatMap CodePoint.utf8)
  | none => throw .unicodeEncodeError

/-- The header of a form. -/
def formHeaders : List (PyStr × PyStr) :=
  [(str "Content-Type", str "application/x-www-form-urlencoded")]

/-! ### The response -/

/-- `TokenResult`. What is only carried on keeps the type it had in the response. -/
structure TokenResult where
  accessToken : PyStr
  refreshToken : PyVal := .none
  expiresIn : Option Int := none
  scope : PyVal := .none
  tokenType : PyVal := .none

/-- `TokenResult.from_response`, with `json.loads(body.decode("utf-8"))` as `loads`. -/
def TokenResult.fromResponse (loads : Bytes → Except Exc PyVal) (body : Bytes) :
    Except Exc TokenResult :=
  match loads body with
  | .error e =>
      if e.isValueError then throw (.oauth .exchange (str "token response was not valid JSON"))
      else throw e
  | .ok (.dict data) =>
      match Dict.get data (str "access_token") with
      | .str accessToken =>
          pure
            { accessToken
              refreshToken := Dict.get data (str "refresh_token")
              expiresIn := match Dict.get data (str "expires_in") with
                | .int exp => some exp
                | _ => none
              scope := Dict.get data (str "scope")
              tokenType := Dict.get data (str "token_type") }
      | _ => throw (.oauth .exchange (str "token response missing access_token"))
  | .ok _ => throw (.oauth .exchange (str "token response missing access_token"))

/-- `frozenset(scope.split()) == V1_ALLOWED_SCOPES`. -/
def grantsV1Scopes (scope : PyStr) : Bool :=
  (splitWords scope).all (· ∈ v1AllowedScopes) && v1AllowedScopes.all (· ∈ splitWords scope)

/-! ### The provider -/

/-- A provider, over a client whose allow-list is the one of the OAuth hosts. -/
structure RefreshingTokenProvider where
  json : JsonCodec PyVal Bytes
  gcm : AesGcm
  library : MailLibrary
  client : EgressGuardedClient
  refreshSkewSeconds : Int := 60
  allow_eq : client.allow = oauthAllowHosts
  skew_nonneg : 0 ≤ refreshSkewSeconds

namespace RefreshingTokenProvider

/-- The refresh token, the client id and the client secret of a record. -/
def refreshInputs (record : Dict) : Except Exc (PyStr × PyStr × Option PyStr) :=
  let renew := Exc.oauth .reauthorizationRequired (str "authorization must be renewed")
  match record.get (str "refresh_token"), record.get (str "client_id") with
  | .str refreshToken, .str clientId =>
      match record.get (str "client_secret") with
      | .none => pure (refreshToken, clientId, none)
      | .str clientSecret => pure (refreshToken, clientId, some clientSecret)
      | _ => throw renew
  -- A record from before there was a refresh.
  | _, _ => throw renew

/-- The scope, where there is one, has to be the allowed one. -/
def checkScope (result : TokenResult) : Except Exc TokenResult :=
  match result.scope with
  | .none => pure result
  | .str scope =>
      if grantsV1Scopes scope = true then pure result
      else throw (.oauth .tokenRefresh (str "refreshed scope did not match gmail.send"))
  -- Nothing else has a `split`.
  | _ => throw .other

/-- What the provider takes from the body of a success. -/
def readSuccess (loads : Bytes → Except Exc PyVal) (body : Bytes) : Except Exc TokenResult :=
  match TokenResult.fromResponse loads body with
  | .error (.oauth _ _) => throw (.oauth .tokenRefresh (str "token refresh response was unusable"))
  | .error e => throw e
  | .ok result => checkScope result

/-- What the provider takes from a response. -/
def readResponse (loads : Bytes → Except Exc PyVal) (response : HttpResponse) :
    Except Exc TokenResult :=
  if ¬ (200 ≤ response.status ∧ response.status < 300) then
    if response.status = 400 then
      throw (.oauth .reauthorizationRequired (str "authorization is no longer valid"))
    else throw (.oauth .tokenRefresh (str "token refresh failed"))
  else readSuccess loads response.body

variable (provider : RefreshingTokenProvider)

/-- `_refresh`. -/
def refresh (record : Dict) : RefreshProc PyVal := do
  let (refreshToken, clientId, clientSecret) ← embed (refreshInputs record)
  let request ← embed (buildRefreshTokenRequest refreshToken clientId clientSecret)
  let response ← tryCatch
    (do
      let body ← embed (formBody request.body)
      (provider.client.request provider.library request.endpoint formHeaders body).implement
        refreshTransport)
    fun
      | .egressBlocked _ _ | .timeout _ | .urlError _ | .osError _ =>
          throw (.oauth .tokenRefresh (str "token refresh transport failed"))
      | e => throw e
  let result ← embed (readResponse provider.json.loads response)
  let refreshedAt ← perform (S := RefreshSig) .now
  let expiresAt := match result.expiresIn with
    | some expiresIn => .int (refreshedAt + expiresIn)
    | none => .none
  onRecord (SendPath.SealedTokenStore.replaceAccessToken provider.json provider.gcm
    (.str result.accessToken) (.int refreshedAt) expiresAt result.refreshToken result.scope)
  pure (.str result.accessToken)

/-- `access_token`. The lock makes a call one step of the provider. -/
def accessToken : RefreshProc PyVal := do
  let record ← onRecord (SendPath.SealedTokenStore.tokenRecord provider.json provider.gcm)
  match record.get (str "expires_at") with
  | .int expiresAt => do
      let now ← perform (S := RefreshSig) .now
      if now < expiresAt - provider.refreshSkewSeconds then
        embed (subscript (.dict record) "access_token")
      else refresh provider record
  | _ => refresh provider record

end RefreshingTokenProvider

end GmailGateway
