import GmailGateway.Gateway.ProposalService
import GmailGateway.Python.Http

/-!
# GmailGateway.Gateway.ProposalServer

The loopback endpoint the agent talks to (`gateway/proposal_api.py`, `_ProposalHandler`): it reads
the body, checks the bearer and calls `ProposalService`, or the confirm dispatcher where one is
mounted. A path or method outside the served set gets the same 404 as a request without the bearer.

What a handler raises is not answered at all: the server prints it and closes the connection.
-/

namespace GmailGateway

open Effect Proc Python

/-! ### Requests -/

/-- A request, as far as the handler reads it. -/
structure HttpRequest where
  command : PyStr
  path : PyStr
  authorization : Option PyStr := none
  contentLength : Option PyStr := none

/-- What the handler uses of the standard library. -/
structure ServerLibrary where
  /-- `urlsplit(url).path`. -/
  urlPath : PyStr → Except Exc PyStr
  /-- `int(s)`, or `none` where it raises `ValueError`. -/
  int : PyStr → Option Int
  /-- `json.loads(body)`. -/
  loads : Bytes → Except Exc PyVal

/-- A `ProposalServer`, with its service and the switch of its dispatcher, if it has one. -/
structure ProposalServer where
  library : ServerLibrary
  platform : Platform
  config : ProposalServiceConfig
  sessionBearer : PyStr
  confirm : Option SwitchMode := none

/-! ### Operations -/

/-- What serving a request performs. -/
inductive ServerOp
  /-- On the stores, the factories and the mail client. -/
  | gateway (gatewayOp : GatewayOp)
  /-- `self.rfile.read(n)`. -/
  | readBody (n : Int)
  /-- `_json`: the status line, the headers and the payload as JSON. -/
  | json (status : Int) (payload : PyVal)

/-- Reading gives the bytes there were; a response gives nothing back. -/
abbrev ServerOp.Ret : ServerOp → Type
  | .gateway gatewayOp => gatewayOp.Ret
  | .readBody _ => Bytes
  | .json _ _ => Unit

/-- The gateway behind the server, and the connection. -/
abbrev ServerSig : Signature := ⟨ServerOp, ServerOp.Ret⟩

/-- An operation with its answer. -/
abbrev ServerEvent := Event ServerSig Exc

/-- What the handler methods are. -/
abbrev ServerProc (α : Type) := Proc ServerSig Exc α

/-- The socket may raise anything, and holds nothing that matters here. -/
def serverEnv : Env ServerSig Exc GatewayState
  | s, .gateway o, r, s' => gatewayEnv s o r s'
  | s, .readBody _, _, s' => s' = s
  | s, .json _ _, _, s' => s' = s

/-- A call of the service or the dispatcher. -/
abbrev onGateway {α : Type} (p : Proc GatewaySig Exc α) : ServerProc α :=
  p.implement fun gatewayOp => perform (S := ServerSig) (.gateway gatewayOp)

/-- What a proposal shows: digest, status and times, no content and no token. -/
def Proposal.auditView (p : Proposal) : PyVal :=
  .dict [(str "proposal_id", .str p.proposalId), (str "status", .str (str p.status.value)),
    (str "payload_digest", .str p.payloadDigest), (str "expires_at", .int p.expiresAt),
    (str "created_at", .int p.createdAt)]

/-- `ProposalService.get_status`. -/
def ProposalService.getStatus (proposalId : PyStr) : Proc GatewaySig Exc PyVal := do
  let p ← onStore (ProposalStore.get proposalId)
  pure p.auditView

/-- `_identifiers`, as the dictionary that is sent. -/
def PrepareEmailResult.toDict (result : PrepareEmailResult) : PyVal :=
  .dict [(str "proposal_id", .str result.proposalId),
    (str "payload_digest", .str result.payloadDigest), (str "expires_at", .int result.expiresAt)]

namespace ProposalServer

/-- `{"error": code}`. -/
def errorPayload (code : String) : PyVal := .dict [(str "error", .str (str code))]

/-- `_json`. -/
def json (status : Int) (payload : PyVal) : ServerProc Unit :=
  perform (S := ServerSig) (.json status payload)

/-- `_uniform_404`. -/
def uniform404 : ServerProc Unit := json 404 (errorPayload "not_found")

/-! ### Reading a request -/

/-- `_MAX_BODY_BYTES`. -/
def maxBodyBytes : Int := 1048576

/-- `self.headers.get("Authorization", "")` without its prefix. -/
def presented (request : HttpRequest) : PyStr :=
  let header := request.authorization.getD []
  if (str "Bearer ").isPrefixOf header then header.drop (str "Bearer ").length else []

/-- `_proposal_id_from_path`: one non-empty segment after `/proposal/`. -/
def proposalIdFromPath (path : PyStr) : Option PyStr :=
  if (str "/proposal/").isPrefixOf path then
    let pid := path.drop (str "/proposal/").length
    if pid = [] ∨ CodePoint.ofChar '/' ∈ pid then none else some pid
  else none

/-- `_confirm_id_from_path`: one non-empty segment between `/proposal/` and `/confirm`. -/
def confirmIdFromPath (path : PyStr) : Option PyStr :=
  if (str "/proposal/").isPrefixOf path && (str "/confirm").isSuffixOf path then
    let pid := (path.take (path.length - (str "/confirm").length)).drop (str "/proposal/").length
    if pid = [] ∨ CodePoint.ofChar '/' ∈ pid then none else some pid
  else none

variable (server : ProposalServer)

/-- `_read_request_body`: the body, drained also where it is not used. -/
def readRequestBody (request : HttpRequest) : ServerProc (Option Bytes) :=
  match server.library.int (request.contentLength.getD (str "0")) with
  -- No number at all is treated like no body.
  | none => pure none
  | some length =>
      if length ≤ 0 then pure none
      else if maxBodyBytes < length then do
        -- Drained up to the limit, and refused later.
        let _ ← perform (S := ServerSig) (.readBody maxBodyBytes)
        pure none
      else do
        let body ← perform (S := ServerSig) (.readBody length)
        pure (some body)

/-- `_authed`. -/
def authed (request : HttpRequest) : Except Exc Bool :=
  match compareDigest (presented request) server.sessionBearer with
  | some same => pure same
  | none => throw .typeError

/-! ### The routes -/

/-- `_handle_propose`: a body that is no JSON object is refused before the service sees it. -/
def handlePropose : Option Bytes → ServerProc Unit
  | none | some [] => json 400 (errorPayload "invalid_request")
  | some (b :: bs) =>
      match server.library.loads (b :: bs) with
      | .ok (.dict params) => do
          match ← attempt (onGateway
              (ProposalService.propose server.platform server.config params)) with
          | .ok result => json 200 result.toDict
          | .error .attachmentsNotSupported =>
              json 400 (errorPayload "attachments_not_supported_in_v1")
          | .error e =>
              -- A coarse code: the message may name a field.
              if e.isValueError then json 400 (errorPayload "invalid_payload") else throw e
      | .ok _ => json 400 (errorPayload "invalid_request")
      | .error e =>
          if e.isValueError then json 400 (errorPayload "invalid_request") else throw e

/-- `_handle_status`: an unknown id answers like an unknown path. -/
def handleStatus (proposalId : PyStr) : ServerProc Unit := do
  match ← attempt (onGateway (ProposalService.getStatus proposalId)) with
  | .ok result => json 200 result
  | .error (.proposalNotFound _) => uniform404
  | .error e => throw e

/-- `_handle_confirm`: the response names the status and never the provider. -/
def handleConfirm (switchMode : SwitchMode) (proposalId : PyStr) : ServerProc Unit := do
  match ← attempt (onGateway
      ((ConfirmDispatcher.confirmAndDispatch switchMode proposalId).implement sendPath)) with
  | .ok status =>
      json 200 (.dict [(str "proposal_id", .str proposalId), (str "status", .str (str status))])
  | .error (.proposalNotFound _) => uniform404
  | .error (.proposalExpired _) => json 409 (errorPayload "expired")
  -- Settled already, or never to be retried: not sent again.
  | .error (.illegalTransition _) | .error (.alreadySettled _) | .error (.noAutoRetry _) =>
      json 409 (errorPayload "conflict")
  | .error e => throw e

/-! ### The methods -/

/-- `do_POST`. -/
def doPost (request : HttpRequest) : ServerProc Unit := do
  -- Before the bearer is looked at: the connection has to be left in order.
  let body ← readRequestBody server request
  let path ← embed (server.library.urlPath request.path)
  let authed ← embed (authed server request)
  if authed = false then uniform404
  else if path = str "/proposal" then handlePropose server body
  else
    -- Without a dispatcher the confirm route is no route.
    match confirmIdFromPath path, server.confirm with
    | some proposalId, some switchMode => handleConfirm switchMode proposalId
    | _, _ => uniform404

/-- `do_GET`. -/
def doGet (request : HttpRequest) : ServerProc Unit := do
  let _ ← readRequestBody server request
  let path ← embed (server.library.urlPath request.path)
  let authed ← embed (authed server request)
  match proposalIdFromPath path with
  | some proposalId => if authed = false then uniform404 else handleStatus proposalId
  | none => uniform404

/-- Any other `do_*` (`__getattr__`). -/
def reject (request : HttpRequest) : ServerProc Unit := do
  let _ ← readRequestBody server request
  uniform404

/-- What `BaseHTTPRequestHandler` does with the verb: `do_POST`, `do_GET`, or the `__getattr__` of
the handler for every other. -/
def handle (request : HttpRequest) : ServerProc Unit :=
  if request.command = str "POST" then doPost server request
  else if request.command = str "GET" then doGet server request
  else reject server request

end ProposalServer

end GmailGateway
