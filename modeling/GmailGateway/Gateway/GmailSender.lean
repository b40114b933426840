import GmailGateway.Gateway.ProposalService
import GmailGateway.Python.Base64
import GmailGateway.Python.Utf8

/-!
# GmailGateway.Gateway.GmailSender

The sender on the wire (`gateway/gmail_sender.py`) and the client it posts with
(`gateway/egress.py`). Where `ProposalService` has one operation that delivers a payload, here
the payload is rendered, a token is asked for, the client checks the host, and what comes back
from the transport is classified.

The e-mail package, `urlsplit` and `json.loads` are parameters, so that nothing below depends
on what they do.
-/

namespace GmailGateway

open Effect Proc Python

/-! ### The collaborators -/

/-- What the sender uses of the standard library. -/
structure MailLibrary where
  /-- `email.message.EmailMessage`. -/
  Message : Type
  empty : Message
  /-- `msg[name] = value`. -/
  setHeader : Message → PyStr → PyVal → Except Exc Message
  setContent : Message → PyVal → Except Exc Message
  asBytes : Message → Except Exc Bytes
  /-- `urlsplit(url)`: the scheme and the host name. -/
  urlsplit : PyStr → Except Exc (PyStr × Option PyStr)
  jsonLoads : PyStr → Except Exc PyVal

/-- What a dispatch with `GmailSender` performs. -/
inductive WireOp
  /-- On the stores. -/
  | gateway (gatewayOp : GatewayOp)
  /-- Ask the token provider for an access token. -/
  | token
  /-- Invoke the transport. -/
  | post (url : PyStr) (headers : List (PyStr × PyStr)) (body : Bytes)

/-- What each answers; the transport with a status and a body. -/
abbrev WireOp.Ret : WireOp → Type
  | .gateway gatewayOp => gatewayOp.Ret
  | .token => PyStr
  | .post _ _ _ => Int × Bytes

/-- The stores, the token provider and the transport. -/
abbrev WireSig : Signature := ⟨WireOp, WireOp.Ret⟩

/-- An operation with its answer. -/
abbrev WireEvent := Event WireSig Exc

/-- A procedure over the three. -/
abbrev WireProc (α : Type) := Proc WireSig Exc α

/-! ### The client -/

/-- `HttpResponse`. -/
structure HttpResponse where
  status : Int
  body : Bytes
  host : PyStr

/-- An `EgressGuardedClient`: the host names it lets through, in lower case. -/
structure EgressGuardedClient where
  allow : List PyStr

namespace EgressGuardedClient

/-- The host a url is posted to, unless the client refuses it. -/
def checkHost (L : MailLibrary) (client : EgressGuardedClient) (url : PyStr) : Except Exc PyStr := do
  let (scheme, host) ← L.urlsplit url
  -- A bearer token rides in the headers, so plain text is refused first.
  rejectIf (scheme ≠ str "https") (.egressBlocked (host.getD []) (str "scheme_not_https"))
  match host.filter (· ∈ client.allow) with
  | none => throw (.egressBlocked (host.getD []) (str "host_not_allowed"))
  | some host => pure host

/-- `EgressGuardedClient.post`: the host is checked before anything is sent. -/
def post (L : MailLibrary) (client : EgressGuardedClient) (url : PyStr)
    (headers : List (PyStr × PyStr)) (body : Bytes) : WireProc HttpResponse := do
  let host ← embed (checkHost L client url)
  let (status, body) ← perform (S := WireSig) (.post url headers body)
  pure { status, body, host }

end EgressGuardedClient

/-- What a `GmailSender` is constructed with, apart from its providers. -/
structure GmailSenderConfig where
  library : MailLibrary
  client : EgressGuardedClient
  url : PyStr

namespace GmailSender

/-- `GMAIL_HOST`. -/
def gmailHost : PyStr := str "gmail.googleapis.com"

/-- `GMAIL_SEND_URL`. -/
def gmailSendUrl : PyStr := str "https://gmail.googleapis.com/gmail/v1/users/me/messages/send"

/-! ### Rendering -/

/-- `", ".join(v)`, which takes any iterable of strings. -/
def joinComma : PyVal → Except Exc PyStr
  | .list xs => do
      let parts ← xs.mapM (expectStr .typeError)
      pure (List.intercalate (str ", ") parts)
  | .str s => pure (List.intercalate (str ", ") (s.map fun c => [c]))
  | .dict members => pure (List.intercalate (str ", ") (members.map (·.1)))
  | _ => throw .typeError

section
variable (L : MailLibrary)

/-- The header `name` with the addresses of the field `key`, if there are any. -/
def optionalAddresses (canonical : Dict) (name key : String) (msg : L.Message) :
    Except Exc L.Message := do
  let addresses ← subscript (.dict canonical) key
  if addresses.truthy then do
    let joined ← joinComma addresses
    L.setHeader msg (str name) (.str joined)
  else pure msg

/-- Render an approved payload into the bytes of a message. -/
def buildRawMessage (canonical : Dict) : Except Exc Bytes := do
  let recipients ← subscript (.dict canonical) "to"
  let joined ← joinComma recipients
  let msg ← L.setHeader L.empty (str "To") (.str joined)
  let msg ← optionalAddresses L canonical "Cc" "cc" msg
  let msg ← optionalAddresses L canonical "Bcc" "bcc" msg
  let subject ← subscript (.dict canonical) "subject"
  let msg ← L.setHeader msg (str "Subject") subject
  let messageId := canonical.get (str "message_id")
  -- Minted once upstream and frozen into the payload.
  let msg ← if messageId.truthy then L.setHeader msg (str "Message-ID") messageId else pure msg
  let body ← subscript (.dict canonical) "body"
  let content ← subscript body "content"
  let msg ← L.setContent msg content
  L.asBytes msg

/-- `json.dumps({"raw": _raw_b64(canonical)}).encode("utf-8")`: the letters of base64 need no
escape. -/
def requestBody (canonical : Dict) : Except Exc Bytes := do
  let raw ← buildRawMessage L canonical
  let text := str "\x7b\"raw\": \"" ++ Base64.urlsafeB64encode raw ++ str "\"\x7d"
  pure (text.flatMap CodePoint.utf8)

/-- The headers of the request to Gmail. -/
def requestHeaders (accessToken : PyStr) : List (PyStr × PyStr) :=
  [(str "Authorization", str "Bearer " ++ accessToken),
    (str "Content-Type", str "application/json")]

/-! ### Classifying -/

/-- `v if isinstance(v, str) else None`. -/
def strOrNone : PyVal → Option PyStr
  | .str s => some s
  | _ => none

/-- `_parse_ids`: best effort, so a body that is not JSON has no ids. -/
def parseIds (body : Bytes) : Except Exc (Option PyStr × Option PyStr) :=
  match decodeUtf8 body with
  | none => pure (none, none)
  | some text =>
      match L.jsonLoads text with
      | .ok (.dict data) =>
          pure (strOrNone (Dict.get data (str "id")), strOrNone (Dict.get data (str "threadId")))
      | .ok _ => pure (none, none)
      | .error e => if e.isValueError then pure (none, none) else throw e

end

section
variable (P : Platform)

/-- `_sha256_hex`. -/
def sha256Hex (value : PyStr) : Except Exc PyStr :=
  match encodeUtf8 value with
  | some data => pure (P.sha256Hex data)
  | none => throw .unicodeEncodeError

/-- `_sha256_hex(v) if v else None`. -/
def idSha256 : Option PyStr → Except Exc (Option PyStr)
  | none | some [] => pure none
  | some (c :: cs) => some <$> sha256Hex P (c :: cs)

/-- `"%d" % n`. -/
def formatInt (n : Int) : Except Exc PyStr :=
  if intMaxStrDigits < (natDecimal n.natAbs).length then throw .valueError else pure (decimal n)

/-- `_classify`: by the status alone. -/
def classify (L : MailLibrary) (resp : HttpResponse) : Except Exc SendResult :=
  if 200 ≤ resp.status ∧ resp.status < 300 then do
    let (mid, tid) ← parseIds L resp.body
    let messageIdSha256 ← idSha256 P mid
    let threadIdSha256 ← idSha256 P tid
    pure { kind := .accepted, messageIdSha256, threadIdSha256, egressHosts := [resp.host] }
  else if 400 ≤ resp.status ∧ resp.status < 500 then do
    let status ← formatInt resp.status
    pure { kind := .rejected, errorCode := str "rejected_" ++ status, egressHosts := [resp.host] }
  else do
    let status ← formatInt resp.status
    pure { kind := .indeterminate, errorCode := str "server_" ++ status,
           egressHosts := [resp.host] }

/-- What the sender makes of what came back from the client. -/
def report (L : MailLibrary) : Except Exc HttpResponse → Except Exc SendResult
  | .ok resp => classify P L resp
  | .error (.egressBlocked host _) =>
      pure { kind := .rejected, errorCode := str "egress_blocked",
             egressHosts := if host = [] then [] else [host] }
  | .error (.timeout _) =>
      pure { kind := .indeterminate, errorCode := str "TIMEOUT", egressHosts := [gmailHost] }
  | .error (.urlError _) | .error (.osError _) =>
      pure { kind := .indeterminate, errorCode := str "TRANSPORT", egressHosts := [gmailHost] }
  | .error e => throw e

/-- `GmailSender.__call__`, from the payload that passed the policy on. -/
def deliver (cfg : GmailSenderConfig) (canonical : Dict) : WireProc SendResult := do
  let body ← embed (requestBody cfg.library canonical)
  match ← attempt (perform (S := WireSig) .token) with
  | .error (.oauth _ _) =>
      -- Before Gmail was contacted, so the message is definitely not sent.
      pure { kind := .rejected, errorCode := str "authorization_required" }
  | .error e => throw e
  | .ok accessToken => do
      let answer ← attempt
        (cfg.client.post cfg.library cfg.url (requestHeaders accessToken) body)
      embed (report P cfg.library answer)

/-- A delivery is the rest of the call; everything else is on the stores. -/
def wire (cfg : GmailSenderConfig) : (o : GatewayOp) → WireProc o.Ret
  | .deliver canonical => deliver P cfg canonical
  | o => perform (S := WireSig) (.gateway o)

/-- The sender and the stores, as the state machine uses them. -/
def onWire (cfg : GmailSenderConfig) (o : StoreOp) : WireProc o.Ret :=
  (sendPath o).implement (wire P cfg)

end

end GmailSender

end GmailGateway
