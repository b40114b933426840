import GmailGateway.Effect.Hiding
import GmailGateway.Gateway.ContentFidelity
import GmailGateway.Gateway.ProposalIds

/-!
# GmailGateway.Gateway.EndpointCalls

**A request is a call of the proposal service.** Besides that call, a thread of the endpoint reads
the request and answers it: without these operations it does what the call does
(`handle_refines`), and what it answers with status 200 is what the call returned
(`handle_grants`).
-/

namespace GmailGateway

open Effect Proc Python

namespace ProposalServer

open ProposalService

/-! ### What a request comes to -/

/-- The operations on the stores and the factories. -/
def view : ServerEvent → Option GatewayEvent
  | ⟨.gateway o, r⟩ => some ⟨o, r⟩
  | ⟨.readBody _, _⟩ | ⟨.json _ _, _⟩ => none

/-- The operations on the connection. -/
def Wire : ServerOp → Prop
  | .gateway _ => False
  | .readBody _ | .json _ _ => True

/-- The client sends this body: a read returns what there is of it. -/
def Sends (body : Bytes) (e : ServerEvent) : Prop :=
  ∀ n b, e = ⟨.readBody n, .ok b⟩ → b = body.take n.toNat

/-- What `_read_request_body` returns of the body that is sent. -/
def received (server : ProposalServer) (request : HttpRequest) (body : Bytes) : Option Bytes :=
  match server.library.int (request.contentLength.getD (str "0")) with
  | none => none
  | some length =>
      if length ≤ 0 then none
      else if maxBodyBytes < length then none
      else some (body.take length.toNat)

/-- The parameters of `propose` in the body. -/
def paramsOf (server : ProposalServer) : Option Bytes → Option Dict
  | none | some [] => none
  | some (b :: bs) =>
      match server.library.loads (b :: bs) with
      | .ok (.dict params) => some params
      | _ => none

/-- The proposal that a request names. -/
def namedId (server : ProposalServer) (request : HttpRequest) : PyStr :=
  match server.library.urlPath request.path with
  | .ok path => (proposalIdFromPath path).getD []
  | .error _ => []

/-- The call of which a request makes a beginning. A status request only reads the record, as
`expire` does first. -/
def callOf (server : ProposalServer) (request : HttpRequest) (body : Bytes) : GatewayCall :=
  if request.command = str "POST" then
    .propose ((paramsOf server (received server request body)).getD [])
  else .expire (namedId server request) 0

section Requests
variable {server : ProposalServer} {request : HttpRequest} {body : Bytes}

theorem view_wire {o : ServerOp} (r : Except Exc o.Ret) (ho : Wire o) : view ⟨o, r⟩ = none := by
  cases o with
  | gateway gatewayOp => exact absurd ho id
  | readBody n => rfl
  | json status payload => rfl

theorem refines_wire {α β : Type} {p : ServerProc α} {q : Proc GatewaySig Exc β}
    (hp : p.Performs Wire) : Refines view (Sends body) p q :=
  .of_hidden hp fun _ r ho => view_wire r ho

theorem performs_json (status : Int) (payload : PyVal) :
    (json status payload).Performs Wire :=
  performs_perform trivial

theorem refines_json {β : Type} {status : Int} {payload : PyVal} {q : Proc GatewaySig Exc β} :
    Refines view (Sends body) (json status payload) q :=
  refines_wire (performs_json status payload)

/-- What follows the body is given what was received of it. -/
theorem refines_body {β : Type} {f : Option Bytes → ServerProc Unit} {q : Proc GatewaySig Exc β}
    (hf : Refines view (Sends body) (f (received server request body)) q) :
    Refines view (Sends body) (readRequestBody server request >>= f) q := by
  unfold received at hf
  unfold readRequestBody
  split
  · simpa [*] using hf
  · rename_i length hlength
    simp only [hlength] at hf
    split
    · simpa [*] using hf
    · split
      · simp only [*, if_true, if_false] at hf
        rw [bind_assoc]
        exact .hidden_bind (fun _ => view_wire (o := .readBody maxBodyBytes) _ trivial)
          fun _ _ => hf
      · simp only [*, if_false] at hf
        rw [bind_assoc]
        refine .hidden_bind (fun _ => view_wire (o := .readBody length) _ trivial) fun b hb => ?_
        rw [hb _ _ rfl]
        exact hf

theorem refines_embed {α β : Type} {x : Except Exc α} {f : α → ServerProc Unit}
    {q : Proc GatewaySig Exc β} (hf : ∀ a, x = .ok a → Refines view (Sends body) (f a) q) :
    Refines view (Sends body) (embed x >>= f) q := by
  cases x with
  | ok a => exact hf a rfl
  | error e => exact .raise

/-- An attempt at a call of the service, and an answer. -/
theorem refines_call {α β : Type} {p : Proc GatewaySig Exc α} {g : Except Exc α → ServerProc Unit}
    (hg : ∀ r, (g r).Performs Wire)
    (h : α → Proc GatewaySig Exc β) :
    Refines view (Sends body) (attempt (onGateway p) >>= g) (p >>= h) :=
  @Refines.attempt_implement GatewaySig ServerSig _ _ _ _ _ _ _ ServerOp.gateway (fun _ r => r)
    (fun _ => rfl) (fun _ _ => rfl) p _ (fun r _ => refines_wire (hg r)) h

/-- The answer to a `propose` that ended so. -/
def proposeAnswer : Except Exc PrepareEmailResult → ServerProc Unit
  | .ok result => json 200 result.toDict
  | .error .attachmentsNotSupported => json 400 (errorPayload "attachments_not_supported_in_v1")
  | .error e => if e.isValueError then json 400 (errorPayload "invalid_payload") else throw e

/-- The answer to a status request. -/
def statusAnswer : Except Exc PyVal → ServerProc Unit
  | .ok result => json 200 result
  | .error (.proposalNotFound _) => uniform404
  | .error e => throw e

theorem handlePropose_params {received : Option Bytes} {params : Dict}
    (h : paramsOf server received = some params) : handlePropose server received =
      attempt (onGateway (ProposalService.propose server.platform server.config params)) >>=
        proposeAnswer := by
  unfold paramsOf at h
  split at h
  · cases h
  · cases h
  · split at h
    · rename_i hloads
      cases h
      simp only [handlePropose, hloads]
      rfl
    · cases h

theorem handlePropose_none {received : Option Bytes} (h : paramsOf server received = none) :
    ∃ e, handlePropose server received = json 400 (errorPayload "invalid_request") ∨
      handlePropose server received = throw e := by
  unfold handlePropose
  unfold paramsOf at h
  split
  · exact ⟨.other, .inl rfl⟩
  · exact ⟨.other, .inl rfl⟩
  · rename_i b bs
    cases hloads : server.library.loads (b :: bs) with
    | error e =>
        refine ⟨e, ?_⟩
        cases hvalue : e.isValueError
        · exact .inr (by simp [hvalue])
        · exact .inl (by simp [hvalue])
    | ok v =>
        refine ⟨.other, .inl ?_⟩
        cases v with
        | dict params => simp [hloads] at h
        | none | bool | int | float | str | list => rfl

theorem handleStatus_eq (id : PyStr) :
    handleStatus id = attempt (onGateway (getStatus id)) >>= statusAnswer := rfl

theorem performs_proposeAnswer (r : Except Exc PrepareEmailResult) :
    (proposeAnswer r).Performs Wire := by
  unfold proposeAnswer
  split
  · exact performs_json _ _
  · exact performs_json _ _
  · split
    · exact performs_json _ _
    · exact performs_throw _

theorem performs_statusAnswer (r : Except Exc PyVal) : (statusAnswer r).Performs Wire := by
  unfold statusAnswer
  split
  · exact performs_json _ _
  · exact performs_json _ _
  · exact performs_throw _

theorem handlePropose_refines (received : Option Bytes) :
    Refines view (Sends body) (handlePropose server received)
      ((GatewayCall.propose ((paramsOf server received).getD [])).run server.platform
        server.config) := by
  cases hparams : paramsOf server received with
  | none =>
      obtain ⟨e, heq | heq⟩ := handlePropose_none hparams
      · rw [heq]
        exact refines_json
      · rw [heq]
        exact .raise
  | some params =>
      rw [handlePropose_params hparams]
      exact refines_call performs_proposeAnswer _

theorem handleStatus_refines (id : PyStr) :
    Refines view (Sends body) (handleStatus id)
      ((GatewayCall.expire id 0).run server.platform server.config) := by
  have hread : ∀ p : Except Exc Proposal, Performs Wire
      (attempt (onGateway (onStore (embed p : Proc StoreSig Exc Proposal) >>= fun p =>
        pure p.auditView)) >>= statusAnswer) := by
    intro p
    cases p with
    | error e => exact performs_statusAnswer (.error e)
    | ok p => exact performs_statusAnswer (.ok p.auditView)
  -- Both read the record. The rest of the status request is its answer.
  change Refines view (Sends body) (.op (.gateway (.store (.get id))) _)
    (.op (.store (.get id)) _)
  refine .shows (fun r => r) (fun _ _ => rfl) fun raw _ => refines_wire ?_
  rcases raw with e | _ | raw
  · exact performs_statusAnswer (.error e)
  · exact performs_statusAnswer (.error (.proposalNotFound id))
  · exact hread (Proposal.fromDict raw)

theorem handle_refines (hconfirm : server.confirm = none) :
    Refines view (Sends body) (handle server request)
      ((callOf server request body).run server.platform server.config) := by
  unfold handle callOf
  split
  · unfold doPost
    refine refines_body (refines_embed fun path hpath => refines_embed fun authed hauthed => ?_)
    split
    · exact refines_json
    · split
      · exact handlePropose_refines _
      · rw [hconfirm]
        split
        · contradiction
        · exact refines_json
  · split
    · unfold doGet
      refine refines_body (refines_embed fun path hpath => refines_embed fun authed hauthed => ?_)
      have hid : namedId server request = (proposalIdFromPath path).getD [] := by
        simp [namedId, hpath]
      rw [hid]
      cases proposalIdFromPath path with
      | none => exact refines_json
      | some id =>
          cases authed
          · exact refines_json
          · exact handleStatus_refines id
    · exact refines_body refines_json

/-! ### What is answered -/

/-- Nothing was granted yet. -/
def Silent (τ : List ServerEvent) : Prop := ∀ payload r, ⟨.json 200 payload, r⟩ ∉ τ

/-- What was granted: a proposal to a `POST`, the view of a record to a `GET`. -/
inductive Granted (server : ProposalServer) (request : HttpRequest) (body : Bytes) :
    PyVal → List GatewayEvent → Prop
  | proposed {params result τ} (hcommand : request.command = str "POST")
      (hparams : paramsOf server (received server request body) = some params)
      (hends : CallEnds params (.ok result) τ) : Granted server request body result.toDict τ
  | viewed {raw p τ} (hcommand : request.command ≠ str "POST")
      (hread : ⟨.store (.get (namedId server request)), .ok (some raw)⟩ ∈ τ)
      (hdecoded : Proposal.fromDict raw = .ok p) : Granted server request body p.auditView τ

/-- Every answer with status 200 grants something. -/
def Grants (server : ProposalServer) (request : HttpRequest) (body : Bytes)
    (τ : List ServerEvent) : Prop :=
  ∀ payload r, ⟨.json 200 payload, r⟩ ∈ τ → Granted server request body payload (τ.filterMap view)

/-- A thread of the endpoint sees any answers, and the body that is sent. -/
abbrev sending (body : Bytes) : Env ServerSig Exc Unit := anyAnswer fun o r => Sends body ⟨o, r⟩

section Local
variable {τ : List ServerEvent}

theorem Silent.grants (h : Silent τ) : Grants server request body τ :=
  fun payload r hmem => absurd hmem (h payload r)

theorem Silent.concat {e : ServerEvent} (h : Silent τ)
    (he : ∀ payload r, e ≠ ⟨.json 200 payload, r⟩) : Silent (τ ++ [e]) := by
  intro payload r hmem
  rcases List.mem_append.mp hmem with hmem | hmem
  · exact h payload r hmem
  · exact he payload r (List.mem_singleton.mp hmem).symm

theorem view_json {status : Int} {payload : PyVal} {r : Except Exc Unit} :
    List.filterMap view (τ ++ [⟨.json status payload, r⟩]) = τ.filterMap view := by
  rw [List.filterMap_append]
  exact List.append_nil _

theorem view_gateway {o : GatewayOp} {r : Except Exc o.Ret} :
    List.filterMap view (τ ++ [⟨.gateway o, r⟩]) = τ.filterMap view ++ [⟨o, r⟩] :=
  List.filterMap_append

/-- An answer that is not 200 grants nothing. -/
theorem json_silent {status : Int} (hstatus : status ≠ 200) {payload : PyVal} (h : Silent τ) :
    (json status payload).sat (sending body) (fun τ _ => Grants server request body τ)
      (fun _ τ _ => Grants server request body τ) τ () := by
  have hsilent : ∀ r, Silent (τ ++ [⟨.json status payload, r⟩]) := fun r =>
    h.concat fun payload' r' heq => hstatus (by cases heq; rfl)
  simp only [json, perform, sat_op, sat_embed]
  exact fun r _ _ => ⟨(hsilent r).grants, (hsilent r).grants⟩

theorem json_grants {payload : PyVal} (h : Silent τ)
    (hgranted : Granted server request body payload (τ.filterMap view)) :
    (json 200 payload).sat (sending body) (fun τ _ => Grants server request body τ)
      (fun _ τ _ => Grants server request body τ) τ () := by
  have hgrants : ∀ r, Grants server request body (τ ++ [⟨.json 200 payload, r⟩]) := by
    intro r payload' r' hmem
    rcases List.mem_append.mp hmem with hmem | hmem
    · exact absurd hmem (h payload' r')
    · cases List.mem_singleton.mp hmem
      rw [view_json]
      exact hgranted
  simp only [json, perform, sat_op, sat_embed]
  exact fun r _ _ => ⟨hgrants r, hgrants r⟩

/-- A call of the service answers nothing, and is made under any answers. -/
theorem onGateway_silent {α : Type} {p : Proc GatewaySig Exc α}
    {Q : Except Exc α → List GatewayEvent → Prop}
    (hp : p.sat anyGatewayAnswer (fun _ _ => True) (fun r τ _ => Q r τ) [] ())
    (h : Silent τ) (hview : τ.filterMap view = []) :
    (onGateway p).sat (sending body) (fun τ _ => Grants server request body τ)
      (fun r τ _ => Silent τ ∧ Q r (τ.filterMap view)) τ () := by
  refine sat_mono (sat_implement (R := fun τ _ θ _ => τ = θ.filterMap view ∧ Silent θ)
    (fun o τ s θ t _ hR => ?_) hp ⟨hview.symm, h⟩) fun r θ _ hend => ?_
  · obtain ⟨rfl, hsilent⟩ := hR
    simp only [perform, sat_op, sat_embed]
    intro r _ _
    have hsilent' : Silent (θ ++ [⟨.gateway o, r⟩]) := hsilent.concat fun _ _ heq => by cases heq
    exact ⟨hsilent'.grants, (), trivial, view_gateway.symm, hsilent'⟩
  · obtain ⟨_, _, ⟨rfl, hsilent⟩, hQ⟩ := hend
    exact ⟨hsilent, hQ⟩

theorem readRequestBody_silent :
    (readRequestBody server request).sat (sending body) (fun τ _ => Grants server request body τ)
      (fun r τ _ => Silent τ ∧ τ.filterMap view = [] ∧
        ∀ b, r = .ok b → b = received server request body) [] () := by
  have hsilent : ∀ n r, Silent [⟨.readBody n, r⟩] := fun n r payload r' hmem => by
    cases List.mem_singleton.mp hmem
  have hnil : Silent [] := fun _ _ hmem => absurd hmem List.not_mem_nil
  unfold readRequestBody received
  cases server.library.int (request.contentLength.getD (str "0")) with
  | none => exact ⟨hnil, rfl, fun b hb => by cases hb; rfl⟩
  | some length =>
      by_cases hlow : length ≤ 0
      · simp only [if_pos hlow]
        exact ⟨hnil, rfl, fun b hb => by cases hb; rfl⟩
      · simp only [if_neg hlow]
        by_cases hhigh : maxBodyBytes < length
        · simp only [if_pos hhigh]
          refine (sat_perform_bind _ _).mpr fun r _ _ => ⟨(hsilent _ r).grants, ?_⟩
          cases r with
          | error e => exact ⟨hsilent _ _, rfl, fun b hb => by cases hb⟩
          | ok b => exact ⟨hsilent _ _, rfl, fun b hb => by cases hb; rfl⟩
        · simp only [if_neg hhigh]
          refine (sat_perform_bind _ _).mpr fun r _ hr => ⟨(hsilent _ r).grants, ?_⟩
          cases r with
          | error e => exact ⟨hsilent _ _, rfl, fun b hb => by cases hb⟩
          | ok b =>
              refine ⟨hsilent _ _, rfl, fun b' hb => ?_⟩
              cases hb
              exact congrArg some (hr _ b rfl)

theorem proposeAnswer_grants {params : Dict} {r : Except Exc PrepareEmailResult}
    (hcommand : request.command = str "POST")
    (hparams : paramsOf server (received server request body) = some params) (h : Silent τ)
    (hends : CallEnds params r (τ.filterMap view)) :
    (proposeAnswer r).sat (sending body) (fun τ _ => Grants server request body τ)
      (fun _ τ _ => Grants server request body τ) τ () := by
  unfold proposeAnswer
  split
  · exact json_grants h (.proposed hcommand hparams hends)
  · exact json_silent (by decide) h
  · split
    · exact json_silent (by decide) h
    · exact h.grants

theorem handlePropose_grants (hcommand : request.command = str "POST") (h : Silent τ)
    (hview : τ.filterMap view = []) :
    (handlePropose server (received server request body)).sat (sending body)
      (fun τ _ => Grants server request body τ) (fun _ τ _ => Grants server request body τ)
      τ () := by
  cases hparams : paramsOf server (received server request body) with
  | none =>
      obtain ⟨e, heq | heq⟩ := handlePropose_none hparams
      · rw [heq]
        exact json_silent (by decide) h
      · rw [heq]
        exact h.grants
  | some params =>
      have hpropose : (propose server.platform server.config params).sat anyGatewayAnswer
          (fun _ _ => True) (fun r τ _ => CallEnds params r τ) [] () :=
        sat_weaken propose_protocol (fun _ _ _ => trivial) fun r τ _ hend => hend.2
      rw [handlePropose_params hparams, sat_bind, sat_attempt]
      refine sat_mono (onGateway_silent hpropose h hview) fun r τ' _ hend => ?_
      exact proposeAnswer_grants hcommand hparams hend.1 hend.2

theorem statusAnswer_grants {r : Except Exc PyVal} (hcommand : request.command ≠ str "POST")
    (h : Silent τ) (hread : ∀ v, r = .ok v → ∃ raw p,
      ⟨.store (.get (namedId server request)), .ok (some raw)⟩ ∈ τ.filterMap view ∧
        Proposal.fromDict raw = .ok p ∧ v = p.auditView) :
    (statusAnswer r).sat (sending body) (fun τ _ => Grants server request body τ)
      (fun _ τ _ => Grants server request body τ) τ () := by
  unfold statusAnswer
  split
  · obtain ⟨raw, p, hget, hdecoded, rfl⟩ := hread _ rfl
    exact json_grants h (.viewed hcommand hget hdecoded)
  · exact json_silent (by decide) h
  · exact h.grants

/-- A status that is returned is that of a record that was read. -/
theorem getStatus_reads (id : PyStr) : (getStatus id).sat anyGatewayAnswer (fun _ _ => True)
    (fun r τ _ => ∀ v, r = .ok v → ∃ raw p, ⟨.store (.get id), .ok (some raw)⟩ ∈ τ ∧
      Proposal.fromDict raw = .ok p ∧ v = p.auditView) [] () := by
  simp only [getStatus, ProposalStore.get, implement_bind, implement_kvGet, bind_assoc, sat_bind]
  intro r _ _
  refine ⟨trivial, ?_⟩
  rcases r with e | _ | raw
  · exact fun v hv => by cases hv
  · exact fun v hv => by cases hv
  · simp only [andThen_ok, implement_embed, sat_embed]
    cases hdecoded : Proposal.fromDict raw with
    | error e => exact fun v hv => by cases hv
    | ok p =>
        intro v hv
        cases hv
        exact ⟨raw, p, by simp, hdecoded, rfl⟩

theorem handleStatus_grants (hcommand : request.command ≠ str "POST") (h : Silent τ)
    (hview : τ.filterMap view = []) :
    (handleStatus (namedId server request)).sat (sending body)
      (fun τ _ => Grants server request body τ) (fun _ τ _ => Grants server request body τ)
      τ () := by
  rw [handleStatus_eq, sat_bind, sat_attempt]
  refine sat_mono (onGateway_silent (getStatus_reads _) h hview) fun r τ' _ hend => ?_
  exact statusAnswer_grants hcommand hend.1 hend.2

/-- What follows the body. -/
theorem body_grants {f : Option Bytes → ServerProc Unit}
    (hf : ∀ τ, Silent τ → τ.filterMap view = [] → (f (received server request body)).sat
      (sending body) (fun τ _ => Grants server request body τ)
      (fun _ τ _ => Grants server request body τ) τ ()) :
    (readRequestBody server request >>= f).sat (sending body)
      (fun τ _ => Grants server request body τ) (fun _ τ _ => Grants server request body τ)
      [] () := by
  rw [sat_bind]
  refine sat_mono readRequestBody_silent fun r τ _ hend => ?_
  obtain ⟨hsilent, hview, hbody⟩ := hend
  cases r with
  | error e => exact hsilent.grants
  | ok b =>
      obtain rfl := hbody b rfl
      exact hf τ hsilent hview

theorem embed_grants {α : Type} {x : Except Exc α} {f : α → ServerProc Unit} (h : Silent τ)
    (hf : ∀ a, x = .ok a → (f a).sat (sending body) (fun τ _ => Grants server request body τ)
      (fun _ τ _ => Grants server request body τ) τ ()) :
    (embed x >>= f).sat (sending body) (fun τ _ => Grants server request body τ)
      (fun _ τ _ => Grants server request body τ) τ () := by
  cases x with
  | ok a => exact hf a rfl
  | error e => exact h.grants

theorem handle_grants (hconfirm : server.confirm = none) :
    (handle server request).sat (sending body) (fun τ _ => Grants server request body τ)
      (fun _ τ _ => Grants server request body τ) [] () := by
  unfold handle
  split
  · rename_i hcommand
    refine body_grants fun τ h hview => embed_grants h fun path hpath => embed_grants h
      fun authed hauthed => ?_
    split
    · exact json_silent (by decide) h
    · split
      · exact handlePropose_grants hcommand h hview
      · rw [hconfirm]
        split
        · contradiction
        · exact json_silent (by decide) h
  · rename_i hcommand
    split
    · refine body_grants fun τ h hview => embed_grants h fun path hpath => embed_grants h
        fun authed hauthed => ?_
      cases hid : proposalIdFromPath path with
      | none => exact json_silent (by decide) h
      | some id =>
          have hnamed : namedId server request = id := by simp [namedId, hpath, hid]
          cases authed
          · exact json_silent (by decide) h
          · rw [← hnamed]
            exact handleStatus_grants hcommand h hview
    · exact body_grants fun τ h _ => json_silent (by decide) h

end Local

/-! ### What a request does to the stores -/

/-- What a request does to the stores: the records it writes are pending. -/
def ProposeWrite : GatewayOp → Prop
  | .store (.put _ v) => ∃ p : Proposal, v = p.toDict ∧ p.status = .pending
  | .store (.claim _ v) => ∃ id, v = .index id
  | .store (.append _) | .store (.send _) | .payloadGet _ | .deliver _ => False
  | .store (.get _) | .store (.delete _) | .store .now | .payloadPut _ _ | .payloadDelete _
  | .newProposalId | .newMessageId => True

theorem onStore_proposeWrite {α : Type} {p : Proc StoreSig Exc α}
    (h : p.Performs fun o => ProposeWrite (.store o)) : (onStore p).Performs ProposeWrite :=
  performs_implement h fun _ ho => performs_perform ho

theorem create_proposeWrite {p : Proposal} (hp : p.status = .pending) :
    (onStore (ProposalStore.create p)).Performs ProposeWrite := by
  have hread : ProposeWrite (.store (.get p.proposalId)) := trivial
  have hput : ProposeWrite (.store (.put p.proposalId p.toDict)) := ⟨p, rfl, hp⟩
  have hdelete : ProposeWrite (.store (.delete p.proposalId)) := trivial
  refine onStore_proposeWrite (performs_bind (performs_raiseIf _ _) fun _ => performs_bind
    (performs_raiseIf _ _) fun _ => performs_bind (performs_raiseIf _ _) fun _ => performs_bind
      (performs_perform hread) fun existing => performs_bind (performs_raiseIf _ _) fun _ =>
        performs_bind (performs_perform hput) fun _ => ?_)
  split
  · exact performs_pure _
  · rename_i key _
    have hclaim : ProposeWrite (.store (.claim (ProposalStore.idemIndexKey key)
      (.index p.proposalId))) := ⟨_, rfl⟩
    refine performs_bind (performs_perform hclaim) fun won => ?_
    split
    · exact performs_pure _
    · exact performs_bind (performs_perform hdelete) fun _ => performs_throw _

theorem get_proposeWrite (id : PyStr) :
    (ProposalStore.get id).Performs fun o => ProposeWrite (.store o) :=
  ProposalStore.performs_get (show ProposeWrite (.store (.get id)) from trivial)

theorem find_proposeWrite (key : PyStr) :
    (onStore (ProposalStore.findByIdempotency key)).Performs ProposeWrite := by
  have hread : ProposeWrite (.store (.get (ProposalStore.idemIndexKey key))) := trivial
  have hget : ∀ id, (some <$> ProposalStore.get id).Performs fun o => ProposeWrite (.store o) :=
    fun id => performs_bind (get_proposeWrite id) fun p => performs_pure _
  refine onStore_proposeWrite (performs_bind (performs_perform hread) fun raw => ?_)
  split
  · exact performs_pure _
  · exact hget _
  · exact hget _

theorem lostRace_proposeWrite (key : Option PyStr) (id : PyStr) (e : Exc) :
    (lostRace key id e).Performs ProposeWrite := by
  unfold lostRace
  split
  · refine performs_bind (performs_perform trivial) fun _ => ?_
    split
    · exact performs_throw _
    · refine performs_bind (find_proposeWrite _) fun existing => ?_
      split
      · exact performs_pure _
      · exact performs_throw _
  · exact performs_throw _

theorem record_proposeWrite (key : Option PyStr) (now : Int) (canonical : Dict)
    (result : PrepareEmailResult) : (record key now canonical result).Performs ProposeWrite :=
  performs_bind (performs_perform trivial) fun _ => performs_handle
    (performs_bind (create_proposeWrite rfl) fun _ => performs_pure _) (lostRace_proposeWrite _ _)

theorem proposeNew_proposeWrite (P : Platform) (cfg : ProposalServiceConfig) (params : Dict)
    (key : Option PyStr) : (proposeNew P cfg params key).Performs ProposeWrite := by
  refine performs_bind (performs_perform trivial) fun now => performs_bind ?_ fun messageId =>
    performs_bind (performs_raiseIf _ _) fun _ => performs_bind ?_ fun result =>
      performs_bind (performs_embed _) fun canonical =>
        performs_bind (performs_embed _) fun fresh =>
          performs_bind (performs_raiseIf _ _) fun _ => record_proposeWrite _ _ _ _
  · unfold mintMessageId
    split
    · exact performs_perform trivial
    · exact performs_pure _
  · exact performs_bind (performs_raiseIf _ _) fun _ => performs_bind (performs_raiseIf _ _)
      fun _ => performs_bind (performs_embed _) fun canonical => performs_bind (performs_embed _)
        fun _ => performs_bind (performs_perform trivial) fun id => performs_bind (performs_embed _)
          fun digest => performs_pure _

theorem propose_proposeWrite (P : Platform) (cfg : ProposalServiceConfig) (params : Dict) :
    (ProposalService.propose P cfg params).Performs ProposeWrite := by
  refine performs_bind (performs_raiseIf _ _) fun _ => performs_bind (performs_embed _) fun key =>
    performs_bind ?_ fun existing => ?_
  · unfold replay
    split
    · exact performs_pure _
    · exact find_proposeWrite _
  · split
    · exact performs_pure _
    · exact proposeNew_proposeWrite P cfg params key

/-- What a request does. -/
def RequestWrite : ServerOp → Prop
  | .gateway o => ProposeWrite o
  | .readBody _ | .json _ _ => True

theorem onGateway_requestWrite {α : Type} {p : Proc GatewaySig Exc α}
    (h : p.Performs ProposeWrite) : (onGateway p).Performs RequestWrite :=
  performs_implement h fun _ ho => performs_perform ho

theorem readRequestBody_performs : (readRequestBody server request).Performs Wire := by
  unfold readRequestBody
  split
  · exact performs_pure _
  · split
    · exact performs_pure _
    · split
      · exact performs_bind (performs_perform trivial) fun _ =>
          performs_pure _
      · rename_i length _ _ _
        exact performs_bind (performs_perform trivial) fun _ =>
          performs_pure _

/-- Without a dispatcher a request proposes, reads a status, or does neither. -/
theorem handle_performs {P : ServerOp → Prop} (hconfirm : server.confirm = none)
    (hwire : ∀ o, Wire o → P o)
    (hpropose : ∀ params, (onGateway (ProposalService.propose server.platform server.config
      params)).Performs P)
    (hstatus : ∀ id, (onGateway (getStatus id)).Performs P) :
    (handle server request).Performs P := by
  have hjson : ∀ status payload, (json status payload).Performs P := fun _ _ =>
    (performs_json _ _).mono hwire
  have hbody : (readRequestBody server request).Performs P := readRequestBody_performs.mono hwire
  have hcall : ∀ body, (handlePropose server body).Performs P := by
    intro body
    cases hparams : paramsOf server body with
    | none =>
        obtain ⟨e, heq | heq⟩ := handlePropose_none hparams
        · rw [heq]
          exact hjson _ _
        · rw [heq]
          exact performs_throw _
    | some params =>
        rw [handlePropose_params hparams]
        exact performs_bind (performs_attempt (hpropose params)) fun r =>
          (performs_proposeAnswer r).mono hwire
  unfold handle
  split
  · refine performs_bind hbody fun body => performs_bind (performs_embed _) fun path =>
      performs_bind (performs_embed _) fun authed => ?_
    split
    · exact hjson _ _
    · split
      · exact hcall body
      · rw [hconfirm]
        split
        · contradiction
        · exact hjson _ _
  · split
    · refine performs_bind hbody fun body => performs_bind (performs_embed _) fun path =>
        performs_bind (performs_embed _) fun authed => ?_
      cases proposalIdFromPath path with
      | none => exact hjson _ _
      | some id =>
          cases authed
          · exact hjson _ _
          · exact performs_bind (performs_attempt (hstatus id)) fun r =>
              (performs_statusAnswer r).mono hwire
    · exact performs_bind hbody fun _ => hjson _ _

theorem handle_requestWrite (hconfirm : server.confirm = none) :
    (handle server request).Performs RequestWrite := by
  have hwire : ∀ o, Wire o → RequestWrite o := fun o ho => by
    cases o with
    | gateway gatewayOp => exact absurd ho id
    | readBody n => trivial
    | json status payload => trivial
  refine handle_performs hconfirm hwire
    (fun params => onGateway_requestWrite (propose_proposeWrite _ _ params)) fun id => ?_
  exact onGateway_requestWrite (performs_bind (onStore_proposeWrite (get_proposeWrite id))
    fun p => performs_pure _)

/-- What a request other than a `POST` does. -/
def ReadsOnly : ServerOp → Prop
  | .gateway (.store (.get _)) | .readBody _ | .json _ _ => True
  | .gateway _ => False

theorem handle_readsOnly (hcommand : request.command ≠ str "POST") :
    (handle server request).Performs ReadsOnly := by
  have hwire : ∀ o, Wire o → ReadsOnly o := fun o ho => by
    cases o with
    | gateway gatewayOp => exact absurd ho id
    | readBody n => trivial
    | json status payload => trivial
  have hjson : ∀ status payload, (json status payload).Performs ReadsOnly := fun _ _ =>
    (performs_json _ _).mono hwire
  have hbody : (readRequestBody server request).Performs ReadsOnly :=
    readRequestBody_performs.mono hwire
  have hget : ∀ id, (onGateway (getStatus id)).Performs ReadsOnly := by
    intro id
    have hread : (ProposalStore.get id).Performs fun o : StoreOp =>
        ReadsOnly (.gateway (.store o)) :=
      ProposalStore.performs_get (show ReadsOnly (.gateway (.store (.get id))) from trivial)
    have hstore : (onStore (ProposalStore.get id)).Performs fun o : GatewayOp =>
        ReadsOnly (.gateway o) := performs_implement hread fun o ho => performs_perform ho
    exact performs_implement (performs_bind hstore fun p => performs_pure _) fun o ho =>
      performs_perform ho
  unfold handle
  rw [if_neg hcommand]
  split
  · refine performs_bind hbody fun body => performs_bind (performs_embed _) fun path =>
      performs_bind (performs_embed _) fun authed => ?_
    cases proposalIdFromPath path with
    | none => exact hjson _ _
    | some id =>
        cases authed
        · exact hjson _ _
        · exact performs_bind (performs_attempt (hget id)) fun r =>
            (performs_statusAnswer r).mono hwire
  · exact performs_bind hbody fun _ => hjson _ _

end Requests

end ProposalServer

end GmailGateway
