import GmailGateway.Gateway.GmailSender

/-!
# GmailGateway.Gateway.Egress

The guarded client of the OAuth calls (`gateway/egress.py`), and the transport it has by default. It
is the client that `GmailSender` posts with, over a transport of its own.
-/

namespace GmailGateway

open Effect Proc Python

/-- What an egress client asks of its transport. -/
inductive TransportOp
  /-- Invoke the transport. -/
  | post (url : PyStr) (headers : List (PyStr × PyStr)) (body : Bytes)

/-- A status and a body. -/
abbrev TransportOp.Ret : TransportOp → Type
  | .post _ _ _ => Int × Bytes

/-- The transport. -/
abbrev TransportSig : Signature := ⟨TransportOp, TransportOp.Ret⟩

/-- A procedure over the transport. -/
abbrev TransportProc (α : Type) := Proc TransportSig Exc α

/-- `OAUTH_ALLOW_HOSTS`. -/
def oauthAllowHosts : List PyStr := [str "oauth2.googleapis.com"]

theorem oauthAllowHosts_eq : ({ allow := oauthAllowHosts } : EgressGuardedClient).allow =
    oauthAllowHosts := rfl

namespace EgressGuardedClient

/-- `EgressGuardedClient.post`. -/
def request (L : MailLibrary) (client : EgressGuardedClient) (url : PyStr)
    (headers : List (PyStr × PyStr)) (body : Bytes) : TransportProc HttpResponse := do
  let host ← embed (checkHost L client url)
  let (status, body) ← perform (S := TransportSig) (.post url headers body)
  pure { status, body, host }

end EgressGuardedClient

/-! ### The standard library's transport -/

/-- What opening a URL comes to: a response to read, or an `HTTPError` with a response in it. -/
inductive Opened
  | response (status : Int)
  | httpError (code : Int)

/-- The status, whichever it is. -/
def Opened.status : Opened → Int
  | .response status => status
  | .httpError code => code

/-- What the default transport asks of the standard library. -/
inductive OpenerOp
  /-- `opener.open(req)`. -/
  | urlopen (url : PyStr) (headers : List (PyStr × PyStr)) (body : Bytes)
  /-- `resp.read()`. -/
  | read
  /-- `e.read()`. -/
  | readError

/-- Opening gives a response, reading its body. -/
abbrev OpenerOp.Ret : OpenerOp → Type
  | .urlopen _ _ _ => Opened
  | .read => Bytes
  | .readError => Bytes

/-- The opener. -/
abbrev OpenerSig : Signature := ⟨OpenerOp, OpenerOp.Ret⟩

/-- A request to the opener, with its answer. -/
abbrev OpenerEvent := Event OpenerSig Exc

/-- A procedure over the opener. -/
abbrev OpenerProc (α : Type) := Proc OpenerSig Exc α

/-- Every operation may raise anything. A status that `http.client` accepts has three digits. -/
def openerEnv : Env OpenerSig Exc Unit :=
  anyAnswer fun
    | .urlopen _ _ _, .ok opened => 100 ≤ opened.status ∧ opened.status ≤ 999
    | _, _ => True

/-- `isinstance(e, OSError)`: timeouts and `URLError` are ones. -/
def Exc.isOSError : Exc → Bool
  | .timeout _ | .urlError _ | .osError _ => true
  | _ => false

/-- `urllib_transport`. -/
def urllibTransport : (o : TransportOp) → OpenerProc o.Ret
  | .post url headers body => do
      match ← perform (S := OpenerSig) (.urlopen url headers body) with
      | .response status => do
          let data ← perform (S := OpenerSig) .read
          pure (status, data)
      | .httpError code => do
          -- The status counts, so that a body that breaks off is dropped.
          let data ← tryCatch (perform (S := OpenerSig) .readError) fun e =>
            if e.isOSError = true then pure [] else throw e
          pure (code, data)

end GmailGateway
