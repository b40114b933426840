import GmailGateway.Authz.Capability

/-!
# GmailGateway.Canonicalizer.Payload

The canonical payload of a `PrepareEmail` action (`canonicalizer/payload.py`): the closed
schema it is built from, its digest, and the v1 policy on what may be sent.

A field outside the schema is refused, not dropped. The Message-ID is no field of the
action: the gateway mints it and passes it as a separate argument.
-/

namespace GmailGateway

open Python

/-! ### Checked access -/

/-- `PayloadSchemaError(message)`. -/
abbrev payloadSchemaError (message : String) (args : List PyVal := []) : Exc :=
  .payloadSchema message args

/-- `mapping[key]`. -/
def subscript (value : PyVal) (key : String) : Except Exc PyVal := do
  let mapping ← expectDict .typeError value
  match mapping.get? (str key) with
  | none => throw .keyError
  | some v => pure v

/-- `_reject_unknown`. -/
def rejectUnknown (name : PyStr) (mapping : Dict) (allowed : List PyStr) : Except Exc Unit :=
  let unknown := mapping.unknownKeys allowed
  rejectIf (unknown ≠ [])
    (payloadSchemaError "%s has unsupported field(s) %s; the action set is closed"
      [.str name, .list (sortedKeys unknown)])

/-- `_require`. -/
def requireField (name : PyStr) (mapping : Dict) (key : String) : Except Exc PyVal :=
  match mapping.get? (str key) with
  | none => throw
      (payloadSchemaError "%s is missing required field %r" [.str name, .str (str key)])
  | some v => pure v

/-- `_str_list`. -/
def strList (name : String) (value : PyVal) : Except Exc (List PyStr) := do
  let notStrings := payloadSchemaError "%s must be a list of strings" [.str (str name)]
  let items ← expectList notStrings value
  items.mapM (expectStr notStrings)

/-! ### The schema -/

/-- `_TOP_LEVEL_KEYS`. -/
def topLevelKeys : List PyStr :=
  [str "account_handle", str "to", str "cc", str "bcc", str "subject", str "body",
    str "attachments"]

/-- The idempotency key is accepted on input and is not part of the payload. -/
def topLevelAllowed : List PyStr := topLevelKeys ++ [str "idempotency_key"]

/-- `_BODY_KEYS`. -/
def bodyKeys : List PyStr := [str "format", str "content"]

/-- `_ATTACHMENT_KEYS`. -/
def attachmentKeys : List PyStr :=
  [str "name", str "media_type", str "content_ref", str "sha256", str "size"]

/-- A required string field of an attachment. -/
def attachmentStr (location : PyStr) (a : Dict) (key : String) : Except Exc PyStr := do
  let v ← requireField location a key
  expectStr (payloadSchemaError "%s.%s must be a string" [.str location, .str (str key)]) v

/-- `_normalize_attachment`. -/
def normalizeAttachment (index : Nat) (a : PyVal) : Except Exc PyVal := do
  let location := str "attachments[" ++ natDecimal index ++ str "]"
  let a ← expectDict (payloadSchemaError "%s must be an object" [.str location]) a
  rejectUnknown location a attachmentKeys
  let name ← attachmentStr location a "name"
  let mediaType ← attachmentStr location a "media_type"
  let contentRef ← attachmentStr location a "content_ref"
  let sha256 ← attachmentStr location a "sha256"
  let badSize := payloadSchemaError "%s.size must be a non-negative integer" [.str location]
  match ← requireField location a "size" with
  -- A `bool` is no size, although Python counts it as an `int`.
  | .int size => do
      rejectIf (size < 0) badSize
      pure (.dict [(str "content_ref", .str contentRef), (str "media_type", .str mediaType),
        (str "name", .str name), (str "sha256", .str sha256), (str "size", .int size)])
  | _ => throw badSize

/-- A list of addresses that may be left out. -/
def optionalStrList (prepare : Dict) (key : String) : Except Exc (List PyStr) :=
  if (prepare.get (str key)).truthy then strList key (prepare.get (str key)) else pure []

/-- `_normalize_attachment` over `enumerate(attachments)`. -/
def normalizeAttachments (attachments : List PyVal) : Except Exc (List PyVal) :=
  attachments.zipIdx.mapM fun (a, index) => normalizeAttachment index a

/-- Normalize a `PrepareEmail` input into the canonical payload. A Message-ID of `None` is
none. -/
def buildCanonicalPayload (prepare messageId : PyVal) : Except Exc Dict := do
  let prepare ← expectDict (payloadSchemaError "prepare must be an object") prepare
  rejectUnknown (str "prepare") prepare topLevelAllowed
  let messageIdMember ← match messageId with
    | .none => pure []
    | .str (c :: cs) => pure [(str "message_id", .str (c :: cs))]
    | _ => throw (payloadSchemaError "message_id must be a non-empty string")
  let accountHandle ← requireField (str "prepare") prepare "account_handle"
  let accountHandle ← expectStr (payloadSchemaError "account_handle must be a string") accountHandle
  let subject ← requireField (str "prepare") prepare "subject"
  let subject ← expectStr (payloadSchemaError "subject must be a string") subject
  let body ← requireField (str "prepare") prepare "body"
  let body ← expectDict (payloadSchemaError "body must be an object") body
  rejectUnknown (str "body") body bodyKeys
  let format ← requireField (str "body") body "format"
  let content ← requireField (str "body") body "content"
  let notStrings := payloadSchemaError "body.format and body.content must be strings"
  let format ← expectStr notStrings format
  let content ← expectStr notStrings content
  let recipients ← requireField (str "prepare") prepare "to"
  let recipients ← strList "to" recipients
  let cc ← optionalStrList prepare "cc"
  let bcc ← optionalStrList prepare "bcc"
  let attachments := prepare.get (str "attachments")
  let attachments ← if attachments.truthy then
    expectList (payloadSchemaError "attachments must be a list") attachments else pure []
  let attachments ← normalizeAttachments attachments
  pure ([(str "account_handle", .str accountHandle), (str "to", .list (recipients.map .str)),
    (str "cc", .list (cc.map .str)), (str "bcc", .list (bcc.map .str)),
    (str "subject", .str subject),
    (str "body", .dict [(str "format", .str format), (str "content", .str content)]),
    (str "attachments", .list attachments)] ++ messageIdMember)

/-- The digest the user approves: SHA-256 of the canonical bytes of the payload. -/
def payloadDigest (P : Platform) (prepare messageId : PyVal) : Except Exc PyStr := do
  let canonical ← buildCanonicalPayload prepare messageId
  digest P (.dict canonical)

/-- Fail closed before anything is stored or sent if the payload is outside v1. -/
def enforceV1SendPolicy (canonical : PyVal) : Except Exc Unit := do
  let attachments ← subscript canonical "attachments"
  rejectIf (attachments.truthy = true) .attachmentsNotSupported
  let body ← subscript canonical "body"
  let format ← subscript body "format"
  rejectIf (format.eqStr (str "text") = false) (payloadSchemaError "v1 supports only text bodies")

end GmailGateway
