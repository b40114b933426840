import GmailGateway.Gateway.TokenRefresh

/-!
# GmailGateway.Gateway.TokenRevoke

Remote revocation (`gateway/token_revoke.py`, with the request of `oauth/revoke_request.py`): the
one call that Disconnect makes to the provider. It posts a token and classifies what came back.
-/

namespace GmailGateway

open Effect Proc Python

/-- An operation with its answer. -/
abbrev TransportEvent := Event TransportSig Exc

/-! ### The request -/

/-- `DEFAULT_REVOKE_ENDPOINT`. -/
def defaultRevokeEndpoint : PyStr := str "https://oauth2.googleapis.com/revoke"

/-- `RevokeTokenRequest`: where to post, and the form. -/
structure RevokeTokenRequest where
  endpoint : PyStr
  body : List (PyStr × PyStr)

/-- `build_revoke_token_request`: the token and nothing else. -/
def buildRevokeTokenRequest (token revokeEndpoint : PyStr) : Except Exc RevokeTokenRequest := do
  rejectIf (token = []) .valueError
  pure { endpoint := revokeEndpoint, body := [(str "token", token)] }

/-! ### The revoker -/

/-- `RevokeOutcome`. -/
inductive RevokeOutcome
  | confirmed
  | failed
  | unknown
  deriving DecidableEq

/-- A result, with a reason that has nothing of the response but its status. -/
structure RevokeResult where
  outcome : RevokeOutcome
  reason : Option PyStr := none
  egressHosts : List PyStr := []

/-- `REVOKE_HOST`. -/
def revokeHost : PyStr := str "oauth2.googleapis.com"

/-- A revoker, over a client whose allow-list is the one of the OAuth hosts. -/
structure TokenRevoker where
  library : MailLibrary
  client : EgressGuardedClient
  endpoint : PyStr := defaultRevokeEndpoint
  allow_eq : client.allow = oauthAllowHosts

namespace TokenRevoker

/-- `_classify`. -/
def classify (response : HttpResponse) : Except Exc RevokeResult :=
  if 200 ≤ response.status ∧ response.status < 300 then
    pure { outcome := .confirmed, egressHosts := [response.host] }
  else if 400 ≤ response.status ∧ response.status < 500 then do
    let status ← GmailSender.formatInt response.status
    pure { outcome := .failed, reason := some (str "rejected_" ++ status)
           egressHosts := [response.host] }
  else do
    let status ← GmailSender.formatInt response.status
    pure { outcome := .unknown, reason := some (str "server_" ++ status)
           egressHosts := [response.host] }

/-- What the revoker makes of what came back from the client. -/
def report : Except Exc HttpResponse → Except Exc RevokeResult
  | .ok response => classify response
  | .error (.egressBlocked host _) =>
      pure { outcome := .unknown, reason := some (str "egress_blocked")
             egressHosts := if host = [] then [] else [host] }
  | .error (.timeout _) =>
      pure { outcome := .unknown, reason := some (str "timeout"), egressHosts := [revokeHost] }
  | .error (.urlError _) | .error (.osError _) =>
      pure { outcome := .unknown, reason := some (str "transport"), egressHosts := [revokeHost] }
  | .error e => throw e

variable (revoker : TokenRevoker)

/-- `revoke`: what the request raises is reported, not raised, where it is one of the exceptions
that are caught. -/
def revoke (token : PyStr) : TransportProc RevokeResult := do
  let request ← embed (buildRevokeTokenRequest token revoker.endpoint)
  let answer ← attempt do
    let body ← embed (formBody request.body)
    revoker.client.request revoker.library request.endpoint formHeaders body
  embed (report answer)

end TokenRevoker

/-! ### The leg of Disconnect -/

/-- The tokens of a credentials record, which are strings or absent. -/
structure Credentials where
  refreshToken : Option PyStr
  accessToken : Option PyStr

/-- `credentials.get("refresh_token") or credentials.get("access_token")`, empty where there is
none. -/
def Credentials.token (credentials : Credentials) : PyStr :=
  match credentials.refreshToken with
  | some (c :: cs) => c :: cs
  | _ => credentials.accessToken.getD []

/-- The callable of `make_disconnect_revoker`: the outcome, and the reason as evidence. -/
def TokenRevoker.disconnect (revoker : TokenRevoker) (credentials : Credentials) :
    TransportProc (RevokeOutcome × PyStr) :=
  if credentials.token = [] then pure (.unknown, str "no_token_in_record")
  else do
    let result ← revoker.revoke credentials.token
    pure (result.outcome, result.reason.getD [])

end GmailGateway
