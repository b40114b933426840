import GmailGateway.Canonicalizer.Jcs

/-!
# GmailGateway.Authz.Capability

Signed artifact envelopes and the grant body (`authz/capability.py`), with the
platform functions they are checked with: Ed25519, SHA-256 and the date parser are
parameters (`Platform`), the rest is spelled out.

Everything parsed here comes from outside and is untyped; a parser refuses what is
ill-formed with `CertificateError`. What else it may raise is the subject of
`Authz.Domain`.
-/

namespace GmailGateway

open Python

/-- The libraries the gateway calls: `cryptography`'s Ed25519, `hashlib` and `datetime`. -/
structure Platform where
  PublicKey : Type
  /-- `Ed25519PublicKey.from_public_bytes`; `none` where it raises `ValueError`. -/
  fromPublicBytes : Bytes → Option PublicKey
  /-- Whether `public_key.verify(signature, message)` returns. -/
  verify : PublicKey → Bytes → Bytes → Bool
  /-- `hashlib.sha256(data).hexdigest()`. -/
  sha256Hex : Bytes → PyStr
  /-- `datetime.fromisoformat`: whether the result is timezone-aware, and its
  `int(timestamp())`; `none` where it raises `ValueError`. -/
  fromisoformat : PyStr → Option (Bool × Int)

/-! ### Checked access to untyped values -/

/-- `isinstance(v, dict)`, or raise. -/
def expectDict (e : Exc) : PyVal → Except Exc Dict
  | .dict d => .ok d
  | _ => .error e

/-- `isinstance(v, list)`, or raise. -/
def expectList (e : Exc) : PyVal → Except Exc (List PyVal)
  | .list xs => .ok xs
  | _ => .error e

/-- `isinstance(v, str)`, or raise. -/
def expectStr (e : Exc) : PyVal → Except Exc PyStr
  | .str s => .ok s
  | _ => .error e

@[simp] theorem expectDict_eq_ok {e : Exc} {v : PyVal} {d : Dict} :
    expectDict e v = .ok d ↔ v = .dict d := by
  cases v <;> simp [expectDict]

@[simp] theorem expectList_eq_ok {e : Exc} {v : PyVal} {xs : List PyVal} :
    expectList e v = .ok xs ↔ v = .list xs := by
  cases v <;> simp [expectList]

@[simp] theorem expectStr_eq_ok {e : Exc} {v : PyVal} {s : PyStr} :
    expectStr e v = .ok s ↔ v = .str s := by
  cases v <;> simp [expectStr]

/-- `CertificateError(message)`. -/
abbrev certificateError (message : String) (args : List PyVal := []) : Exc :=
  .certificateError message args none

/-- `sorted(keys)` as the arguments of a message. -/
def sortedKeys (keys : List PyStr) : List PyVal :=
  (keys.insertionSort (· ≤ ·)).map .str

/-! ### Hex and canonical decimals -/

/-- `bytes.fromhex`, which skips ASCII whitespace between bytes; `none` where it raises
`ValueError`. -/
def fromHex : PyStr → Option Bytes
  | [] => some []
  | [c] => if isSpace c then some [] else none
  | c :: d :: rest =>
      if isSpace c then fromHex (d :: rest)
      else do
        let hi ← hexValue? c
        let lo ← hexValue? d
        let bytes ← fromHex rest
        pure (UInt8.ofNat (16 * hi + lo) :: bytes)
where
  isSpace (c : CodePoint) : Bool := c.val = 0x20 || (0x09 ≤ c.val && c.val ≤ 0x0D)

/-- `^…$` with `re.match`: `$` also matches before a final newline. -/
def matchesLine (p : PyStr → Bool) (s : PyStr) : Bool :=
  p s || (s.getLast? = some (CodePoint.ofChar '\n') && p s.dropLast)

/-- `_CANONICAL_DECIMAL`: `^(0|[1-9][0-9]*)$`. -/
def isCanonicalDecimal : PyStr → Bool :=
  matchesLine fun s => s = str "0" || (s.all isDigit && s.head?.any fun c => c ≠ CodePoint.ofChar '0')

/-- `_GRANT_ID_HEX`: `^[0-9a-f]{32}$`. -/
def isGrantIdHex : PyStr → Bool :=
  matchesLine fun s => s.length = 32 && s.all fun c => isDigit c || (0x61 ≤ c.val && c.val ≤ 0x66)

/-- The digits `int` reads from a canonical decimal. -/
def decimalDigits (s : PyStr) : PyStr := s.filter isDigit

/-- `int(s)` of a canonical decimal. -/
def pyInt (s : PyStr) : Except Exc Int :=
  if intMaxStrDigits < (decimalDigits s).length then .error .valueError
  else .ok ((decimalDigits s).foldl (fun n c => 10 * n + (c.val - 0x30 : Nat)) (0 : Nat) : Nat)

theorem pyInt_eq_error {s : PyStr} {e : Exc} :
    pyInt s = .error e ↔ intMaxStrDigits < (decimalDigits s).length ∧ e = .valueError := by
  unfold pyInt
  split <;> simp_all [eq_comm]

/-! ### Signing input -/

/-- `b"puffo-authz/" + artifact_type.encode("utf-8") + b"/v1\0"`. A type that has an
encoding is a Lean `String`. -/
def domainTag (artifactType : String) : Bytes :=
  (str "puffo-authz/").flatMap CodePoint.utf8 ++ (str artifactType).flatMap CodePoint.utf8 ++
    (str "/v1\x00").flatMap CodePoint.utf8

/-- The exact bytes signed for an artifact. -/
def signingInput (artifactType : String) (body : Dict) : Except Exc Bytes := do
  let bytes ← Jcs.canonicalize (.dict body)
  pure (domainTag artifactType ++ bytes)

/-! ### Envelopes -/

/-- The keys of an artifact envelope. -/
def envelopeKeys : List PyStr := [str "v", str "type", str "body", str "sig"]

/-- `(type, body, sig_bytes)` of a signed artifact envelope. -/
def parseEnvelope (env : PyVal) : Except Exc (PyStr × Dict × Bytes) := do
  let env ← expectDict (certificateError "artifact envelope must be an object") env
  let unknown := env.unknownKeys envelopeKeys
  rejectIf (unknown ≠ []) (certificateError "unknown envelope keys: %s" (sortedKeys unknown))
  rejectIf ((env.get (str "v")).eqInt 1 = false) (certificateError "unsupported artifact version")
  let badType := certificateError "artifact type must be a non-empty string"
  let artifactType ← expectStr badType (env.get (str "type"))
  rejectIf (artifactType = []) badType
  let body ← expectDict (certificateError "artifact body must be an object") (env.get (str "body"))
  let sigHex ← expectStr (certificateError "artifact sig must be a hex string") (env.get (str "sig"))
  match fromHex sigHex with
  | none => throw (certificateError "artifact sig is not valid hex")
  | some sig => pure (artifactType, body, sig)

/-! ### Grants -/

/-- `SubjectKind`. -/
inductive SubjectKind
  | osAccount
  | agentKey
  deriving DecidableEq, Repr

/-- The string value of the enumeration. -/
def SubjectKind.value : SubjectKind → PyStr
  | osAccount => str "os_account"
  | agentKey => str "agent_key"

/-- `ApprovalMode`. -/
inductive ApprovalMode
  | auto
  | perCall
  deriving DecidableEq, Repr

/-- The string value of the enumeration. -/
def ApprovalMode.value : ApprovalMode → PyStr
  | auto => str "auto"
  | perCall => str "per_call"

/-- Who a grant is for. The source keeps both kinds' fields in one class with `None`s. -/
inductive Subject
  | osAccount (machineId account : PyStr)
  | agentKey (agentPubkeyHex agentSlug : PyStr)
  deriving DecidableEq

/-- The kind a subject was parsed as. -/
def Subject.kind : Subject → SubjectKind
  | osAccount _ _ => .osAccount
  | agentKey _ _ => .agentKey

/-- `Grant`, as the body of a verified envelope says it. -/
structure Grant where
  grantId : PyStr
  grantVersion : PyStr
  grantVersionInt : Int
  issuerFp : PyStr
  subject : Subject
  tool : PyStr
  action : PyStr
  /-- `scope["from_account"]`, the only key a scope may have. -/
  fromAccount : PyStr
  approvalMode : ApprovalMode
  validFrom : Int
  validUntil : Int
  stateVersion : PyStr
  deriving DecidableEq

/-- The grant lets its subject send without an approval of each call. -/
def Grant.permitsAuto (g : Grant) : Bool := g.approvalMode = .auto

/-- `_require_str`. -/
def requireStr (d : Dict) (key : String) : Except Exc PyStr := do
  let e := certificateError "grant field %r must be a non-empty string" [.str (str key)]
  let s ← expectStr e (d.get (str key))
  rejectIf (s = []) e
  pure s

/-- `_require_grant_id`. -/
def requireGrantId (d : Dict) : Except Exc PyStr := do
  let s ← requireStr d "grant_id"
  rejectIf (isGrantIdHex s = false)
    (certificateError "grant_id must be 32 lowercase hex chars (128-bit)")
  pure s

/-- `_require_decimal_str`: the string, and the number it denotes. -/
def requireDecimalStr (d : Dict) (key : String) : Except Exc (PyStr × Int) := do
  let s ← requireStr d key
  rejectIf (isCanonicalDecimal s = false)
    (certificateError "grant field %r must be a canonical decimal string" [.str (str key)])
  let i ← pyInt s
  pure (s, i)

/-- `_GRANT_BODY_KEYS`. -/
def grantBodyKeys : List PyStr :=
  [str "grant_id", str "grant_version", str "state_version", str "issuer_fp", str "subject",
    str "tool", str "action", str "scope", str "approval_mode", str "valid_from",
    str "valid_until"]

/-- `_parse_scope`. -/
def parseScope (scope : PyVal) : Except Exc PyStr := do
  let scope ← expectDict (certificateError "scope must be an object") scope
  let e := certificateError "scope.from_account is required"
  let fromAccount ← expectStr e (scope.get (str "from_account"))
  rejectIf (fromAccount = []) e
  let unknown := scope.unknownKeys [str "from_account"]
  rejectIf (unknown ≠ []) (certificateError "unknown scope keys: %s" (sortedKeys unknown))
  pure fromAccount

/-- `SubjectKind(v)`. -/
def SubjectKind.ofValue? (v : PyVal) : Option SubjectKind :=
  if v.eqStr (str "os_account") then some .osAccount
  else if v.eqStr (str "agent_key") then some .agentKey
  else none

/-- `_SUBJECT_KEYS`: the closed schema of each kind. -/
def SubjectKind.keys : SubjectKind → List PyStr
  | osAccount => [str "kind", str "machine_id", str "account"]
  | agentKey => [str "kind", str "agent_pubkey", str "agent_slug"]

/-- `_parse_subject`: the keys that are allowed depend on the kind. -/
def parseSubject (s : PyVal) : Except Exc Subject := do
  let s ← expectDict (certificateError "subject must be an object") s
  match SubjectKind.ofValue? (s.get (str "kind")) with
  | none => throw (certificateError "unknown subject.kind %r" [s.get (str "kind")])
  | some kind => do
      let unknown := s.unknownKeys kind.keys
      rejectIf (unknown ≠ []) (certificateError "unknown subject keys for %s: %s"
        (.str kind.value :: sortedKeys unknown))
      match kind with
      | .osAccount => do
          let machineId ← requireStr s "machine_id"
          let account ← requireStr s "account"
          pure (.osAccount machineId account)
      | .agentKey => do
          let agentPubkeyHex ← requireStr s "agent_pubkey"
          let agentSlug ← requireStr s "agent_slug"
          pure (.agentKey agentPubkeyHex agentSlug)

/-- `ApprovalMode(v)`. -/
def ApprovalMode.ofValue? (v : PyVal) : Option ApprovalMode :=
  if v.eqStr (str "auto") then some .auto
  else if v.eqStr (str "per_call") then some .perCall
  else none

/-- `_parse_approval_mode`: a missing mode has a detail of its own. -/
def parseApprovalMode (body : Dict) : Except Exc ApprovalMode := do
  rejectIf (body.contains (str "approval_mode") = false)
    (.certificateError "approval_mode is required" [] (some detailMissingApprovalMode))
  match ApprovalMode.ofValue? (body.get (str "approval_mode")) with
  | some mode => pure mode
  | none => throw (certificateError "unknown approval_mode %r" [body.get (str "approval_mode")])

section
variable (P : Platform)

/-- `canonicalizer.jcs.digest`. -/
def digest (value : PyVal) : Except Exc PyStr := P.sha256Hex <$> Jcs.canonicalize value

/-- `s[:-1] + "+00:00" if s.endswith("Z") else s`. -/
def withOffset (s : PyStr) : PyStr :=
  if s.getLast? = some (CodePoint.ofChar 'Z') then s.dropLast ++ str "+00:00" else s

/-- `_parse_rfc3339`: the timestamp of an aware time. -/
def parseRfc3339 (body : Dict) (key : String) : Except Exc Int := do
  let s ← requireStr body key
  match P.fromisoformat (withOffset s) with
  | none => throw (certificateError "%s is not RFC3339" [.str (str key)])
  | some (aware, timestamp) => do
      rejectIf (aware = false) (certificateError "%s must be timezone-aware" [.str (str key)])
      pure timestamp

/-- Parse a grant body, failing closed on anything ill-formed. -/
def parseGrantBody (body : Dict) : Except Exc Grant := do
  let unknown := body.unknownKeys grantBodyKeys
  rejectIf (unknown ≠ []) (certificateError "unknown grant.body keys: %s" (sortedKeys unknown))
  let grantId ← requireGrantId body
  let (grantVersion, grantVersionInt) ← requireDecimalStr body "grant_version"
  let issuerFp ← requireStr body "issuer_fp"
  let (stateVersion, _) ← requireDecimalStr body "state_version"
  let tool ← requireStr body "tool"
  let action ← requireStr body "action"
  rejectIf (tool ≠ str "gmail" ∨ action ≠ str "send")
    (certificateError "tool/action outside the closed enum")
  let fromAccount ← parseScope (body.get (str "scope"))
  let subject ← parseSubject (body.get (str "subject"))
  let approvalMode ← parseApprovalMode body
  let validFrom ← parseRfc3339 P body "valid_from"
  let validUntil ← parseRfc3339 P body "valid_until"
  rejectIf (validUntil ≤ validFrom) (certificateError "valid_until must be after valid_from")
  pure { grantId, grantVersion, grantVersionInt, issuerFp, subject, tool, action, fromAccount,
         approvalMode, validFrom, validUntil, stateVersion }

end

end GmailGateway
