import GmailGateway.Effect.Pool
import GmailGateway.Gateway.TokenRefresh
import GmailGateway.Python.Http
import Mathlib.Data.List.DropRight

/-!
# GmailGateway.Gateway.OAuthCallback

The consent flow on a loopback listener (`gateway/oauth_listener.py`, over the pure core of
`oauth`). A flow binds a listener, opens the browser, waits for a callback and exchanges its code.

The listener is a thread of its own and serves one request after the other. The two share what was
captured last and whether a callback was answered, so that a callback may still replace another
one after the flow was woken up.
-/

namespace GmailGateway

open Effect Proc Python

/-! ### The standard library -/

/-- What the flow reads of `urlsplit(url)`. -/
structure SplitUrl where
  scheme : PyStr
  username : Option PyStr
  password : Option PyStr
  hostname : Option PyStr
  /-- Reading `port` raises where it is not a number in range. -/
  port : Except Exc (Option Int)
  path : PyStr
  query : PyStr

/-- The library calls of the flow that are not modelled. -/
structure LoopbackLibrary where
  /-- What the egress client uses. -/
  mail : MailLibrary
  urlsplit : PyStr → Except Exc SplitUrl
  /-- `ipaddress.ip_address(host).is_loopback`, where `host` is an address at all. -/
  isLoopbackAddress : PyStr → Bool
  /-- `hashlib.sha256(data).digest()`. -/
  sha256 : Bytes → Bytes
  /-- `json.loads(body.decode("utf-8"))`. -/
  loads : Bytes → Except Exc PyVal
  repr : PyVal → PyStr

/-! ### State and code (`oauth/state.py`, `oauth/callback.py`) -/

/-- `state_matches`: an empty state matches nothing; a state that is not ASCII makes
`compare_digest` raise. -/
def stateMatches (expected received : PyStr) : Except Exc Bool :=
  if expected = [] ∨ received = [] then pure false
  else
    match compareDigest expected received with
    | some same => pure same
    | none => throw .typeError

/-- The parameters of a callback. -/
abbrev CallbackParams := List (PyStr × PyStr)

/-- `params.get(key, "")`. -/
def CallbackParams.getStr (params : CallbackParams) (key : String) : PyStr :=
  (params.lookup (str key)).getD []

/-- `extract_authorization_code`: the state is checked before the provider's error is believed. -/
def extractAuthorizationCode (params : CallbackParams) (expectedState : PyStr) :
    Except Exc PyStr := do
  let same ← stateMatches expectedState (params.getStr "state")
  rejectIf (same = false)
    (.oauth .stateMismatch (str "callback state did not match the issued state"))
  let providerError := params.getStr "error"
  rejectIf (providerError ≠ [])
    (.oauth .authorization (str "authorization failed: " ++ providerError))
  let code := params.getStr "code"
  rejectIf (code = []) (.oauth .missingCode (str "callback carried no authorization code"))
  pure code

/-! ### The loopback redirect (`oauth/redirect.py`) -/

/-- `_LOOPBACK_HOSTS`. -/
def loopbackHosts : List PyStr := [str "127.0.0.1", str "::1", str "localhost"]

/-- `validate_loopback_redirect`. -/
def validateLoopbackRedirect (L : LoopbackLibrary) (redirectUri : PyStr) : Except Exc Unit := do
  let parts ← L.urlsplit redirectUri
  rejectIf (parts.scheme ≠ str "http")
    (.oauth .loopbackRequired
      (str "redirect must use http on loopback, got scheme " ++ L.repr (.str parts.scheme)))
  rejectIf (parts.username.getD [] ≠ [] ∨ parts.password.getD [] ≠ [])
    (.oauth .loopbackRequired (str "redirect must not carry userinfo"))
  rejectIf (parts.hostname.all (· ∉ loopbackHosts) = true)
    (.oauth .loopbackRequired
      (str "redirect host " ++ L.repr (parts.hostname.elim .none .str) ++ str " is not loopback"))
  let port ← parts.port
  rejectIf (port = none)
    (.oauth .loopbackRequired (str "redirect must pin an explicit loopback port"))

/-- `_is_loopback`. -/
def isLoopback (L : LoopbackLibrary) (host : PyStr) : Bool :=
  host = str "localhost" || L.isLoopbackAddress host

/-! ### The proof key (`oauth/pkce.py`) -/

/-- `_b64url_nopad`, which is `secrets.token_urlsafe` on random bytes. -/
def b64urlNopad (raw : Bytes) : PyStr :=
  (Base64.urlsafeB64encode raw).rdropWhile (· = Base64.pad)

/-- The alphabet of a verifier: letters, digits and `-._~`. -/
def isVerifierChar (c : CodePoint) : Bool := c.isAscii && isUnreserved (.ofNat c.val)

/-- `PKCEError` is a `ValueError`. The pattern's `$` also matches before a last line break. -/
def validateCodeVerifier (verifier : PyStr) : Except Exc Unit :=
  let line := if verifier.getLast? = some (CodePoint.ofChar '\n') then verifier.dropLast
    else verifier
  rejectIf (¬ (43 ≤ line.length ∧ line.length ≤ 128 ∧ line.all isVerifierChar = true)) .valueError

/-- `PKCEPair`. -/
structure PkcePair where
  verifier : PyStr
  challenge : PyStr

/-- `code_challenge`, the S256 method. -/
def codeChallenge (L : LoopbackLibrary) (verifier : PyStr) : Except Exc PyStr := do
  validateCodeVerifier verifier
  match encodeUtf8 verifier with
  | some data => pure (b64urlNopad (L.sha256 data))
  | none => throw .unicodeEncodeError

/-! ### The requests (`oauth/authorize.py`, `oauth/token_request.py`) -/

/-- `DEFAULT_AUTH_ENDPOINT`. -/
def defaultAuthEndpoint : PyStr := str "https://accounts.google.com/o/oauth2/v2/auth"

/-- `_validate_scopes`. -/
def validateScopes (L : LoopbackLibrary) (scopes : List PyStr) : Except Exc Unit := do
  let extra := (scopes.filter (· ∉ v1AllowedScopes)).dedup
  rejectIf (extra ≠ [])
    (.oauth .scopeViolation
      (str "scopes outside the v1 allow-list: " ++
        L.repr (.list ((extra.insertionSort (· ≤ ·)).map .str))))
  rejectIf (scopes = []) (.oauth .scopeViolation (str "at least one scope is required"))

/-- `AuthorizationRequest` of `oauth/authorize.py`. -/
structure OAuth.AuthorizationRequest where
  clientId : PyStr
  redirectUri : PyStr
  state : PyStr
  codeChallenge : PyStr
  scopes : List PyStr

/-- `AuthorizationRequest.__post_init__`. -/
def OAuth.AuthorizationRequest.checked (L : LoopbackLibrary)
    (request : OAuth.AuthorizationRequest) : Except Exc OAuth.AuthorizationRequest := do
  validateLoopbackRedirect L request.redirectUri
  validateScopes L request.scopes
  pure request

/-- `build_authorization_url`: scopes without repetitions and in order, then the query. -/
def buildAuthorizationUrl (request : OAuth.AuthorizationRequest) (authEndpoint : PyStr) :
    Except Exc PyStr :=
  let params := [(str "client_id", request.clientId), (str "redirect_uri", request.redirectUri),
    (str "response_type", str "code"),
    (str "scope", List.intercalate (str " ") (request.scopes.dedup.insertionSort (· ≤ ·))),
    (str "state", request.state), (str "code_challenge", request.codeChallenge),
    (str "code_challenge_method", str "S256"), (str "access_type", str "offline"),
    (str "prompt", str "consent")]
  match urlencode params with
  | some query => pure (authEndpoint ++ str "?" ++ query)
  | none => throw .unicodeEncodeError

/-- `TokenExchangeRequest`: where to post, and the form. -/
structure TokenExchangeRequest where
  endpoint : PyStr
  body : List (PyStr × PyStr)

/-- `build_token_exchange_request`: the secret is in the form only if there is one. -/
def buildTokenExchangeRequest (L : LoopbackLibrary)
    (code codeVerifier clientId redirectUri : PyStr) (clientSecret : Option PyStr)
    (tokenEndpoint : PyStr) : Except Exc TokenExchangeRequest := do
  rejectIf (code = []) .valueError
  validateCodeVerifier codeVerifier
  validateLoopbackRedirect L redirectUri
  let body := [(str "grant_type", str "authorization_code"), (str "code", code),
    (str "redirect_uri", redirectUri), (str "client_id", clientId),
    (str "code_verifier", codeVerifier)]
  pure { endpoint := tokenEndpoint
         body := body ++ (clientSecret.map fun secret => (str "client_secret", secret)).toList }

/-! ### Operations -/

/-- What the flow and the handler thread of its listener perform. -/
inductive LoopbackOp
  /- the flow -/
  /-- `secrets.token_bytes(32)`, also under `token_urlsafe`. -/
  | tokenBytes
  /-- Bind the listener and start its thread; the port it got. -/
  | listen
  | onRedirectUri (uri : PyStr)
  | openBrowser (url : PyStr)
  /-- `server.done.wait(timeout)`: whether the event was set in time. -/
  | waitDone
  /-- Read `server.captured`. -/
  | readCaptured
  /-- Invoke the transport. -/
  | post (url : PyStr) (headers : List (PyStr × PyStr)) (body : Bytes)
  | now
  /-- `server.shutdown()` and `server.server_close()`. -/
  | shutdown
  /- the listener -/
  /-- Assign `server.captured`. -/
  | setCaptured (captured : CallbackParams)
  /-- Write a response. -/
  | respond (status : Int)
  /-- `server.done.set()`. -/
  | setDone

/-- What is read from each. -/
abbrev LoopbackOp.Ret : LoopbackOp → Type
  | .tokenBytes => Bytes
  | .listen => Int
  | .waitDone => Bool
  | .readCaptured => Option CallbackParams
  | .post _ _ _ => Int × Bytes
  | .now => Int
  | .onRedirectUri _ | .openBrowser _ | .shutdown | .setCaptured _ | .respond _ | .setDone => Unit

/-- The operations of flow and listener. -/
abbrev LoopbackSig : Signature := ⟨LoopbackOp, LoopbackOp.Ret⟩

/-- An operation with its answer. -/
abbrev LoopbackEvent := Event LoopbackSig Exc

/-- What the flow and the handler are. -/
abbrev LoopbackProc (α : Type) := Proc LoopbackSig Exc α

/-- What the two threads share. -/
structure LoopbackState where
  captured : Option CallbackParams := none
  done : Bool := false

/-- The event, attributes and the end of the listener are the interpreter's; everything else may
also raise. When a request comes is left open, also before the listener is bound. -/
def loopbackEnv : Env LoopbackSig Exc LoopbackState := fun s o r s' =>
  match o, r with
  | .tokenBytes, .ok data => data.length = 32 ∧ s' = s
  | .waitDone, r => r = .ok s.done ∧ s' = s
  | .readCaptured, r => r = .ok s.captured ∧ s' = s
  | .shutdown, r => r = .ok () ∧ s' = s
  | .setCaptured captured, r => r = .ok () ∧ s' = { s with captured := some captured }
  | .setDone, r => r = .ok () ∧ s' = { s with done := true }
  | _, _ => s' = s

/-- The transport of the egress client is the flow's own. -/
def loopbackTransport : (o : TransportOp) → LoopbackProc o.Ret
  | .post url headers body => perform (S := LoopbackSig) (.post url headers body)

/-! ### The flow -/

/-- A `TokenResult` with its `received_at`. -/
structure ReceivedTokens extends TokenResult where
  receivedAt : Int

/-- A flow, over a client whose allow-list is the one of the OAuth hosts. How long it waits does
not matter here, only how `%s` prints it. -/
structure LoopbackOAuthFlow where
  library : LoopbackLibrary
  clientId : PyStr
  egress : EgressGuardedClient
  clientSecret : Option PyStr := none
  scopes : List PyStr := v1AllowedScopes
  host : PyStr := str "127.0.0.1"
  callbackPath : PyStr := str "/oauth2/callback"
  authEndpoint : PyStr := defaultAuthEndpoint
  tokenEndpoint : PyStr := defaultTokenEndpoint
  timeout : PyStr := str "300.0"
  /-- An `on_redirect_uri` was given. -/
  observed : Bool := false
  allow_eq : egress.allow = oauthAllowHosts
  host_loopback : isLoopback library host = true

namespace LoopbackOAuthFlow

variable (flow : LoopbackOAuthFlow)

/-- `generate_pkce_pair`. -/
def generatePkcePair : LoopbackProc PkcePair := do
  let raw ← perform (S := LoopbackSig) .tokenBytes
  let challenge ← embed (codeChallenge flow.library (b64urlNopad raw))
  pure { verifier := b64urlNopad raw, challenge }

/-- `generate_state`. -/
def generateState : LoopbackProc PyStr := do
  let raw ← perform (S := LoopbackSig) .tokenBytes
  pure (b64urlNopad raw)

/-- `_safe_error`: the provider's short code or the status, never the body. -/
def safeError (resp : HttpResponse) : Except Exc PyStr :=
  match flow.library.loads resp.body with
  | .ok (.dict data) =>
      match Dict.get data (str "error") with
      | .str err => pure err
      | _ => httpStatus
  | .ok _ => httpStatus
  | .error e => if e.isValueError then httpStatus else throw e
where
  httpStatus : Except Exc PyStr := do
    let status ← GmailSender.formatInt resp.status
    pure (str "HTTP " ++ status)

/-- What the flow takes from a response. -/
def readResponse (resp : HttpResponse) : Except Exc TokenResult :=
  if ¬ (200 ≤ resp.status ∧ resp.status < 300) then do
    let err ← safeError flow resp
    throw (.oauth .exchange (str "token exchange failed: " ++ err))
  else TokenResult.fromResponse flow.library.loads resp.body

/-- `_exchange`. -/
def exchange (code verifier redirectUri : PyStr) : LoopbackProc ReceivedTokens := do
  let request ← embed (buildTokenExchangeRequest flow.library code verifier flow.clientId
    redirectUri flow.clientSecret flow.tokenEndpoint)
  let body ← embed (formBody request.body)
  let resp ← (flow.egress.request flow.library.mail request.endpoint formHeaders body).implement
    loopbackTransport
  let parsed ← embed (readResponse flow resp)
  let receivedAt ← perform (S := LoopbackSig) .now
  pure { parsed with receivedAt }

/-- The redirect, with the port that the listener got. -/
def redirectUri (port : Int) : PyStr :=
  str "http://" ++ flow.host ++ str ":" ++ decimal port ++ flow.callbackPath

/-- The url the browser is sent to. -/
def authorizationUrl (pkce : PkcePair) (state : PyStr) (port : Int) : Except Exc PyStr := do
  let request ← OAuth.AuthorizationRequest.checked flow.library
    { clientId := flow.clientId, redirectUri := redirectUri flow port, state
      codeChallenge := pkce.challenge, scopes := flow.scopes }
  buildAuthorizationUrl request flow.authEndpoint

/-- From the wait on. -/
def awaitCallback (pkce : PkcePair) (state : PyStr) (port : Int) : LoopbackProc ReceivedTokens := do
  let arrived ← perform (S := LoopbackSig) .waitDone
  raiseIf (arrived = false)
    (.oauth .timeout (str "no OAuth callback within " ++ flow.timeout ++ str "s"))
  let captured ← perform (S := LoopbackSig) .readCaptured
  let code ← embed (extractAuthorizationCode (captured.getD []) state)
  exchange flow code pkce.verifier (redirectUri flow port)

/-- What the `try` of `run` guards. -/
def consent (pkce : PkcePair) (state : PyStr) (port : Int) : LoopbackProc ReceivedTokens := do
  if flow.observed = true then
    perform (S := LoopbackSig) (.onRedirectUri (redirectUri flow port))
  let authUrl ← embed (authorizationUrl flow pkce state port)
  perform (S := LoopbackSig) (.openBrowser authUrl)
  awaitCallback flow pkce state port

/-- `LoopbackOAuthFlow.run`: the listener is shut down whatever comes of the consent. -/
def run : LoopbackProc ReceivedTokens := do
  let pkce ← generatePkcePair flow
  let state ← generateState
  -- The listener refuses a routable interface once more.
  raiseIf (isLoopback flow.library flow.host = false) .valueError
  let port ← perform (S := LoopbackSig) .listen
  let result ← attempt (consent flow pkce state port)
  perform (S := LoopbackSig) .shutdown
  embed result

/-! ### The listener -/

/-- A request as the handler sees it. -/
structure Request where
  command : PyStr
  path : PyStr

/-- `_CallbackHandler.do_GET`. -/
def doGet (path : PyStr) : LoopbackProc Unit := do
  let parts ← embed (flow.library.urlsplit path)
  if parts.path ≠ flow.callbackPath then perform (S := LoopbackSig) (.respond 404)
  else do
    -- A second `code` or `state` does not override the first.
    perform (S := LoopbackSig) (.setCaptured (firstValues (parseQsl parts.query)))
    perform (S := LoopbackSig) (.respond 200)
    perform (S := LoopbackSig) .setDone

/-- The only method there is. -/
def handle (request : Request) : LoopbackProc Unit :=
  if request.command = str "GET" then doGet flow request.path
  else perform (S := LoopbackSig) (.respond 501)

/-- `serve_forever`: what a handler raises is printed and forgotten. -/
def serveForever : List Request → LoopbackProc Unit
  | [] => pure ()
  | request :: requests => do
      let _ ← attempt (handle flow request)
      serveForever requests

/-- The flow and its listener: threads `0` and `1`. -/
def start (requests : List Request) :
    Config LoopbackSig Exc (Option ReceivedTokens) LoopbackState :=
  .start {} fun
    | 0 => some <$> run flow
    | 1 => (fun _ => none) <$> serveForever flow requests
    | _ => pure none

end LoopbackOAuthFlow

end GmailGateway
