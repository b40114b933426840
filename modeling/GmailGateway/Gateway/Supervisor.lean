import GmailGateway.Canonicalizer.Payload
import GmailGateway.Effect.Session

/-!
# GmailGateway.Gateway.Supervisor

The supervision channel (`gateway/supervisor.py`): `start`, `health` and `stop` of the child process
that serves the proposal endpoint.

A child runs on its own: it may exit before any operation of the supervisor. One that was killed is
`dying` until it is gone, and `poll` still takes it for alive. Handles are never reused, a `pid`
may be.
-/

namespace GmailGateway

open Effect Proc Python

/-! ### Children -/

/-- What the operating system knows of a child. -/
inductive ChildStatus
  | running
  /-- Killed, and not gone yet. -/
  | dying
  | exited
  deriving DecidableEq

/-- `os.environ`, as a map. -/
abbrev Environ := PyStr → Option PyStr

/-- A `Popen` object: the child it stands for, and its `pid`. -/
structure Popen where
  handle : Nat
  pid : Nat
  deriving DecidableEq

/-- What the operating system keeps of a child. -/
structure Child where
  pid : Nat
  argv : List PyStr
  cwd : PyStr
  environ : Environ
  /-- The first line of its output; empty if it exits without one. -/
  line : PyStr
  status : ChildStatus := .running

/-- What may have become of a child by itself. -/
def Child.Later (c c' : Child) : Prop := c' = c ∨ c' = { c with status := .exited }

/-- `SIGKILL`. -/
def Child.killed (c : Child) : Child :=
  { c with status := if c.status = .exited then .exited else .dying }

/-- `self._proc`, `self._port` and `self._bearer`. -/
structure SupervisorAttrs where
  proc : Option Popen := none
  port : Option Int := none
  bearer : Option PyStr := none
  deriving DecidableEq

/-- The attributes of a supervisor, and every child it spawned; a handle is an index. -/
structure SupervisorState where
  attrs : SupervisorAttrs := {}
  children : List Child := []

/-! ### Operations -/

/-- What the supervisor raises. -/
inductive SupervisorExc
  /-- `SupervisorError`, with the line where the message shows it. -/
  | supervisorError (message : String) (line : Option PyStr := none)
  /-- `subprocess.TimeoutExpired`. -/
  | timeoutExpired
  | raised (e : Exc)

/-- What the methods of the supervisor perform. -/
inductive SupervisorOp
  | attrs
  | setAttrs (attrs : SupervisorAttrs)
  | bearerFactory
  | environ
  | popen (argv : List PyStr) (cwd : PyStr) (env : Environ)
  | poll (proc : Popen)
  /-- `threading.Thread(target=reader, daemon=True).start()`. -/
  | startReader (proc : Popen)
  /-- `result.get(timeout=timeout)`: what the reader put, `none` for `queue.Empty`. -/
  | getLine (proc : Popen) (timeout : PyVal)
  | kill (proc : Popen)
  | terminate (proc : Popen)
  | wait (proc : Popen)
  /-- `socket.create_connection`. -/
  | connect (host : PyStr) (port : Int)

/-- `None` of `poll` is a child that runs, and of the queue a pipe that was closed. -/
abbrev SupervisorOp.Ret : SupervisorOp → Type
  | .attrs => SupervisorAttrs
  | .bearerFactory => PyStr
  | .environ => Environ
  | .popen _ _ _ => Popen
  | .poll _ => Option Int
  | .getLine _ _ => Option PyStr
  | .setAttrs _ | .startReader _ | .kill _ | .terminate _ | .wait _ | .connect _ _ => Unit

/-- The attributes of the supervisor, and the processes. -/
abbrev SupervisorSig : Signature := ⟨SupervisorOp, SupervisorOp.Ret⟩

/-- An operation with its answer. -/
abbrev SupervisorEvent := Event SupervisorSig SupervisorExc

/-- What the methods of the supervisor are. -/
abbrev SupervisorProc (α : Type) := Proc SupervisorSig SupervisorExc α

/-- One operation, on children that do not move meanwhile. `terminate` asks; whether the child
obeys is its own affair. The reader puts the line of the child, or an empty one where `readline`
raised. Starting it and waiting for it can raise, as `get` does of a negative timeout. -/
def childStep : Env SupervisorSig SupervisorExc SupervisorState
  | s, .attrs, .ok attrs, s' => attrs = s.attrs ∧ s' = s
  | s, .setAttrs attrs, .ok _, s' => s' = { s with attrs }
  | s, .bearerFactory, .ok _, s' => s' = s
  | s, .environ, .ok _, s' => s' = s
  | s, .popen argv cwd env, .ok proc, s' => proc.handle = s.children.length ∧
      ∃ line, s' = { s with
        children := s.children ++ [{ pid := proc.pid, argv, cwd, environ := env, line }] }
  | s, .poll proc, .ok code, s' => s' = s ∧
      ∃ c, s.children[proc.handle]? = some c ∧ (code = none ↔ c.status ≠ .exited)
  | s, .startReader _, .ok _, s' => s' = s
  | s, .getLine proc _, .ok (some line), s' => s' = s ∧
      ∃ c, s.children[proc.handle]? = some c ∧ (line = c.line ∨ line = [])
  | s, .getLine _ _, .ok none, s' => s' = s
  | s, .kill proc, .ok _, s' => s' = { s with
      children := s.children.modify proc.handle Child.killed }
  | s, .terminate _, .ok _, s' => s' = s
  | s, .wait proc, .ok _, s' => s' = s ∧
      ∃ c, s.children[proc.handle]? = some c ∧ c.status = .exited
  | s, .connect _ _, .ok _, s' => s' = s
  | _, .attrs, .error _, _ | _, .setAttrs _, .error _, _ | _, .poll _, .error _, _ => False
  | s, _, .error _, s' => s' = s

/-- The operating system: children may exit before each operation. -/
def supervisorEnv : Env SupervisorSig SupervisorExc SupervisorState := fun s o r s' =>
  ∃ children, List.Forall₂ Child.Later s.children children ∧ childStep { s with children } o r s'

/-! ### The ready line -/

/-- What the supervisor uses of the standard library. -/
structure ReadyLibrary where
  /-- `json.loads(text)`. -/
  loads : PyStr → Except Exc PyVal
  /-- `int(text)`, or `none` where it raises `ValueError`. -/
  int : PyStr → Option Int

/-- `int(value)`. -/
def ReadyLibrary.toInt (L : ReadyLibrary) : PyVal → Except Exc Int
  | .bool b => pure (if b then 1 else 0)
  | .int i => pure i
  | .float (.finite q) => pure (q.num.tdiv q.den)
  | .float .nan => throw .valueError
  -- `OverflowError`
  | .float (.inf _) => throw .other
  | .str text =>
      match L.int text with
      | some i => pure i
      | none => throw .valueError
  | .none | .list _ | .dict _ => throw .typeError

/-- `int(json.loads(line)["port"])`. -/
def ReadyLibrary.port (L : ReadyLibrary) (line : PyStr) : Except Exc Int := do
  let ready ← L.loads line
  let port ← subscript ready "port"
  L.toInt port

/-- `s.strip()`. -/
def strip (s : PyStr) : PyStr :=
  ((s.dropWhile CodePoint.isSpace).reverse.dropWhile CodePoint.isSpace).reverse

/-- `except (ValueError, KeyError, TypeError)`. -/
def malformed : Exc → Bool
  | .keyError | .typeError => true
  | e => e.isValueError

/-! ### `GatewaySupervisor` -/

/-- What a supervisor is constructed with, apart from its collaborators. -/
structure GatewaySupervisor where
  library : ReadyLibrary
  dataRoot : PyStr
  host : PyStr
  python : PyStr
  cwd : PyStr
  /-- Seconds; `_READY_TIMEOUT` by default. -/
  readyTimeout : PyVal := .float (.finite 15)
  messageIdDomain : Option PyStr := none

/-- What `start` returns. -/
structure Descriptor where
  pid : Nat
  port : Option Int
  bearer : Option PyStr
  deriving DecidableEq

/-- What `health` returns. -/
structure Health where
  running : Bool
  listening : Bool
  pid : Option Nat
  port : Option Int
  deriving DecidableEq

namespace GatewaySupervisor

/-- `_ENV_BEARER`. -/
def envBearer : PyStr := str "GATEWAY_SESSION_BEARER"

/-- Read `_proc`, `_port` and `_bearer`. -/
abbrev attrs : SupervisorProc SupervisorAttrs := perform (S := SupervisorSig) .attrs

/-- Write them. -/
abbrev setAttrs (attrs : SupervisorAttrs) : SupervisorProc Unit :=
  perform (S := SupervisorSig) (.setAttrs attrs)

/-- `proc is not None and proc.poll() is None`. -/
def alive : Option Popen → SupervisorProc Bool
  | none => pure false
  | some proc => do
      let code ← perform (S := SupervisorSig) (.poll proc)
      pure code.isNone

/-- `_kill_quietly`. -/
def killQuietly (proc : Popen) : SupervisorProc Unit :=
  tryCatch
    (do
      if ← alive (some proc) then
        perform (S := SupervisorSig) (.kill proc)
        perform (S := SupervisorSig) (.wait proc))
    fun _ => pure ()

/-- `_tcp_open`. -/
def tcpOpen (host : PyStr) (port : Int) : SupervisorProc Bool :=
  tryCatch
    (do
      perform (S := SupervisorSig) (.connect host port)
      pure true)
    fun
      | .raised (.osError _) | .raised (.timeout _) | .raised (.urlError _) => pure false
      | e => throw e

/-- `_descriptor`. -/
def descriptor : SupervisorProc Descriptor := do
  let self ← attrs
  match self.proc with
  -- `None` has no `pid`.
  | none => throw (.raised .other)
  | some proc => pure { pid := proc.pid, port := self.port, bearer := self.bearer }

variable (sup : GatewaySupervisor)

/-- `_read_ready_line`. Only `queue.Empty` is caught. -/
def readReadyLine (proc : Popen) : SupervisorProc (Option PyStr) := do
  perform (S := SupervisorSig) (.startReader proc)
  match ← perform (S := SupervisorSig) (.getLine proc sup.readyTimeout) with
  -- Timed out, or the child exited before printing ready.
  | none | some [] => pure none
  | some (c :: cs) => pure (some (strip (c :: cs)))

/-- `_await_ready`. What reading the line raises goes past the kill. -/
def awaitReady (proc : Popen) : SupervisorProc Int := do
  match ← readReadyLine sup proc with
  | none => do
      killQuietly proc
      throw (.supervisorError "gateway did not report ready")
  | some line =>
      match sup.library.port line with
      | .ok port => pure port
      | .error e =>
          if malformed e then do
            killQuietly proc
            throw (.supervisorError "gateway ready line malformed: %r" (some line))
          else throw (.raised e)

/-- The command line of the child. -/
def argv : List PyStr :=
  [sup.python, str "-m", str "gateway.entrypoint", str "--data-root", sup.dataRoot, str "--host",
    sup.host] ++
    match sup.messageIdDomain with
    | some (c :: cs) => [str "--message-id-domain", c :: cs]
    | _ => []

/-- Summon the gateway; a child that is still alive is used again. -/
def start : SupervisorProc Descriptor := do
  let self ← attrs
  if ← alive self.proc then descriptor
  else do
    let bearer ← perform (S := SupervisorSig) .bearerFactory
    let environ ← perform (S := SupervisorSig) .environ
    let proc ← perform (S := SupervisorSig)
      (.popen (argv sup) sup.cwd (Function.update environ envBearer (some bearer)))
    let port ← awaitReady sup proc
    setAttrs { proc := some proc, port := some port, bearer := some bearer }
    descriptor

/-- Liveness of the child; no request is made of it. -/
def health : SupervisorProc Health := do
  let self ← attrs
  let running ← alive self.proc
  let listening ← match running, self.port with
    | true, some port => tcpOpen sup.host port
    | _, _ => pure false
  pure { running, listening, pid := self.proc.map Popen.pid, port := self.port }

/-- Terminate the child, at last by force. -/
def stop : SupervisorProc Unit := do
  let self ← attrs
  match self.proc with
  | none => setAttrs {}
  | some proc => do
      if ← alive (some proc) then
        perform (S := SupervisorSig) (.terminate proc)
        tryCatch (perform (S := SupervisorSig) (.wait proc)) fun
          | .timeoutExpired => do
              perform (S := SupervisorSig) (.kill proc)
              perform (S := SupervisorSig) (.wait proc)
          | e => throw e
      setAttrs {}

end GatewaySupervisor

/-- The calls of the supervision channel. -/
inductive SupervisorCall
  | start
  | health
  | stop
  deriving DecidableEq

/-- What a call returned. -/
inductive SupervisorResult
  | started (descriptor : Descriptor)
  | reported (health : Health)
  | stopped

/-- Make a call. -/
def SupervisorCall.run (sup : GatewaySupervisor) : SupervisorCall → SupervisorProc SupervisorResult
  | .start => .started <$> sup.start
  | .health => .reported <$> sup.health
  | .stop => (fun _ => .stopped) <$> GatewaySupervisor.stop

end GmailGateway
