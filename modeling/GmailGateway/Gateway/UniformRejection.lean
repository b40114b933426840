import GmailGateway.Authz.GateState
import GmailGateway.Gateway.ProposalServer

/-!
# GmailGateway.Gateway.UniformRejection

**A request without the bearer is answered like one for an unserved route.** Both come to the
procedure of a method that is not served: read the body, answer 404. So nobody without the bearer
learns which routes there are, and no store is touched.

Two things come before that answer and may raise instead, and what a handler raises is not
answered: `urlsplit`, and `hmac.compare_digest` on text that is not ASCII.
-/

namespace GmailGateway

open Effect Proc Python

namespace ProposalServer

/-! ### What a client sees -/

/-- The responses, in order. -/
def responses (τ : List ServerEvent) : List (Int × PyVal) :=
  τ.filterMap fun
    | ⟨.json status payload, _⟩ => some (status, payload)
    | _ => none

/-- No operation raised. -/
def Answered (τ : List ServerEvent) : Prop := ∀ e ∈ τ, ∃ a, e.ans = .ok a

/-- The one response of everything that is refused. -/
def notFound : Int × PyVal := (404, errorPayload "not_found")

/-- The stores are as before and nothing but the 404 is answered; that, unless the socket fails. -/
structure Refused (s : GatewayState) (r : Except Exc Unit) (τ : List ServerEvent)
    (s' : GatewayState) : Prop where
  unchanged : s' = s
  only : ∀ response ∈ responses τ, response = notFound
  answered : Answered τ → responses τ = [notFound] ∧ r = .ok ()

/-- Every execution of the handler refuses the request. -/
def RefusesUniformly (server : ProposalServer) (request : HttpRequest) : Prop :=
  ∀ s τ r s', Exec serverEnv (handle server request) s τ (.done r) s' → Refused s r τ s'

section
variable {server : ProposalServer} {request : HttpRequest} {s : GatewayState}
  {τ τ' : List ServerEvent}

@[simp] theorem responses_append : responses (τ ++ τ') = responses τ ++ responses τ' :=
  List.filterMap_append

theorem Answered.append (h : Answered τ) (h' : Answered τ') : Answered (τ ++ τ') := fun e he =>
  (List.mem_append.mp he).elim (h e) (h' e)

theorem Answered.of_append (h : Answered (τ ++ τ')) : Answered τ ∧ Answered τ' :=
  ⟨fun e he => h e (List.mem_append_left _ he), fun e he => h e (List.mem_append_right _ he)⟩

theorem not_answered {o : ServerOp} {e : Exc} : ¬ Answered (τ ++ [⟨o, .error e⟩]) := by
  intro h
  obtain ⟨a, ha⟩ := h.of_append.2 _ List.mem_cons_self
  cases ha

theorem answered_singleton {o : ServerOp} {a : o.Ret} : Answered [⟨o, .ok a⟩] := by
  intro e he
  rw [List.mem_singleton.mp he]
  exact ⟨a, rfl⟩

/-! ### Reading the body -/

/-- It answers nothing, touches nothing, and fails only with the socket. -/
theorem readRequestBody_reads :
    (readRequestBody server request).sat serverEnv (fun _ s' => s' = s)
      (fun r τ' s' => s' = s ∧ responses τ' = responses τ ∧
        ∀ e, r = Except.error e → ¬ Answered τ') τ s := by
  have hread : ∀ (n : Int) (k : Bytes → Option Bytes),
      (do
        let body ← perform (S := ServerSig) (.readBody n)
        pure (k body)).sat serverEnv (fun _ s' => s' = s)
        (fun r τ' s' => s' = s ∧ responses τ' = responses τ ∧
          ∀ e, r = Except.error e → ¬ Answered τ') τ s := by
    intro n k
    simp only [sat_bind, perform, sat_op, sat_embed]
    intro r s' hw
    refine ⟨hw, ?_⟩
    have hresponses : responses (τ ++ [⟨.readBody n, r⟩]) = responses τ := by
      rw [responses_append]
      exact List.append_nil _
    rcases r with e | body
    · exact ⟨hw, hresponses, fun _ _ => not_answered⟩
    · exact ⟨hw, hresponses, fun e he => (by cases he)⟩
  have hnone : (pure none : ServerProc (Option Bytes)).sat serverEnv (fun _ s' => s' = s)
      (fun r τ' s' => s' = s ∧ responses τ' = responses τ ∧
        ∀ e, r = Except.error e → ¬ Answered τ') τ s :=
    ⟨rfl, rfl, fun e he => (by cases he)⟩
  unfold readRequestBody
  split
  · exact hnone
  split
  · exact hnone
  split
  · exact hread maxBodyBytes fun _ => none
  · exact hread _ some

/-- It can succeed, whatever is stored. -/
theorem readRequestBody_succeeds (server : ProposalServer) (request : HttpRequest)
    (s : GatewayState) : ∃ τ body,
      Exec serverEnv (readRequestBody server request) s τ (.done (.ok body)) s ∧ Answered τ := by
  have hread : ∀ (n : Int) (k : Bytes → Option Bytes), ∃ τ body,
      Exec serverEnv (do
        let body ← perform (S := ServerSig) (.readBody n)
        pure (k body)) s τ (.done (.ok body)) s ∧ Answered τ := fun n k =>
    ⟨[⟨.readBody n, .ok []⟩], k [], .op rfl .ret, answered_singleton⟩
  have hnone : ∃ τ body, Exec serverEnv (pure none : ServerProc (Option Bytes)) s τ
      (.done (.ok body)) s ∧ Answered τ :=
    ⟨[], none, .ret, fun e he => absurd he List.not_mem_nil⟩
  unfold readRequestBody
  split
  · exact hnone
  split
  · exact hnone
  split
  · exact hread maxBodyBytes fun _ => none
  · exact hread _ some

/-! ### The procedure of an unserved method -/

theorem reject_refuses :
    (reject server request).sat serverEnv (fun _ _ => True) (fun r τ s' => Refused s r τ s')
      [] s := by
  rw [reject, sat_bind]
  refine sat_weaken readRequestBody_reads (fun _ _ _ => trivial) fun r τ s₁ h => ?_
  obtain ⟨rfl, hresponses, hfault⟩ := h
  rcases r with e | body
  · exact
      { unchanged := rfl
        only := fun response hmem => absurd (hresponses ▸ hmem) List.not_mem_nil
        answered := fun h => absurd h (hfault e rfl) }
  · rw [andThen_ok]
    simp only [uniform404, json, perform, sat_op, sat_embed]
    intro r s₂ hw
    have hall : responses (τ ++ [⟨.json 404 (errorPayload "not_found"), r⟩]) = [notFound] := by
      rw [responses_append, hresponses]
      rfl
    refine ⟨trivial, hw, ?_, fun h => ⟨hall, ?_⟩⟩
    · rw [hall]
      exact fun response hmem => List.mem_singleton.mp hmem
    · rcases r with e | _
      · exact absurd h not_answered
      · rfl

/-- A handler that always comes to the 404 is that procedure. -/
theorem bind_eq_reject {f : Option Bytes → ServerProc Unit} (h : ∀ body, f body = uniform404) :
    (readRequestBody server request >>= f) = reject server request :=
  bind_congr h

/-! ### Routes that are not served -/

/-- The bearer and the path are text the handler gets past. -/
structure Readable (server : ProposalServer) (request : HttpRequest) : Prop where
  path : ∃ path, server.library.urlPath request.path = .ok path
  token : isAscii (presented request) = true
  bearer : isAscii server.sessionBearer = true

theorem authed_eq (h : Readable server request) :
    authed server request = .ok (presented request == server.sessionBearer) := by
  rw [authed, compareDigest_of_isAscii h.token h.bearer]
  rfl

/-- The path is not served for the method. -/
def Unserved (server : ProposalServer) (request : HttpRequest) : Prop :=
  ∀ path, server.library.urlPath request.path = .ok path →
    (request.command = str "POST" → path ≠ str "/proposal" ∧
      (confirmIdFromPath path = none ∨ server.confirm = none)) ∧
    (request.command = str "GET" → proposalIdFromPath path = none)

/-- What an unserved route comes to, whoever asks for it. -/
theorem handle_unserved (h : Readable server request) (hroute : Unserved server request) :
    handle server request = reject server request := by
  obtain ⟨path, hpath⟩ := h.path
  obtain ⟨hpost, hget⟩ := hroute path hpath
  unfold handle
  split
  · rename_i hcommand
    obtain ⟨hpropose, hconfirm⟩ := hpost hcommand
    refine bind_eq_reject fun body => ?_
    rw [hpath, authed_eq h]
    change (if (presented request == server.sessionBearer) = false then uniform404
      else if path = str "/proposal" then handlePropose server body else _) = uniform404
    rw [if_neg hpropose]
    rcases hconfirm with hnone | hnone
    · rw [hnone]
      exact ite_self _
    · rw [hnone]
      split
      · rfl
      · split <;> first | rfl | simp_all
  split
  · rename_i hcommand
    refine bind_eq_reject fun body => ?_
    rw [hpath, authed_eq h, embed_ok_bind, embed_ok_bind, hget hcommand]
  · rfl

/-! ### Requests without the bearer -/

/-- Nothing raises before the bearer is found to be wrong. -/
def Comparable (server : ProposalServer) (request : HttpRequest) : Prop :=
  (request.command = str "POST" ∨ request.command = str "GET") → Readable server request

/-- Then the request is handled as if its method were not served. -/
theorem handle_eq_reject (hwrong : presented request ≠ server.sessionBearer)
    (h : Comparable server request) : handle server request = reject server request := by
  have hdenied : Readable server request → authed server request = .ok false := by
    intro h
    rw [authed_eq h, beq_eq_false_iff_ne.mpr hwrong]
  unfold handle
  split
  · rename_i hcommand
    have hreadable := h (.inl hcommand)
    obtain ⟨path, hpath⟩ := hreadable.path
    refine bind_eq_reject fun body => ?_
    rw [hpath, hdenied hreadable]
    rfl
  split
  · rename_i hcommand
    have hreadable := h (.inr hcommand)
    obtain ⟨path, hpath⟩ := hreadable.path
    refine bind_eq_reject fun body => ?_
    rw [hpath, hdenied hreadable, embed_ok_bind, embed_ok_bind]
    cases proposalIdFromPath path with
    | none => rfl
    | some proposalId => exact if_pos rfl
  · rfl

/-- Otherwise the handler raises, once it has the body. -/
theorem handle_eq_raise (h : ¬ Comparable server request) :
    ∃ e, handle server request = (readRequestBody server request >>= fun _ => raise e) := by
  obtain ⟨hcommand, hreadable⟩ := Classical.not_imp.mp h
  have hraises : (∃ e, server.library.urlPath request.path = .error e) ∨
      ∃ path, server.library.urlPath request.path = .ok path ∧
        authed server request = .error .typeError := by
    cases hpath : server.library.urlPath request.path with
    | error e => exact .inl ⟨e, rfl⟩
    | ok path =>
        refine .inr ⟨path, rfl, ?_⟩
        have hnone : compareDigest (presented request) server.sessionBearer = none := by
          rw [compareDigest_eq_none]
          by_contra hnot
          obtain ⟨htoken, hbearer⟩ := not_or.mp hnot
          exact hreadable ⟨⟨path, hpath⟩, by simpa using htoken, by simpa using hbearer⟩
        rw [authed, hnone]
        rfl
  unfold handle
  by_cases hpost : request.command = str "POST"
  · rw [if_pos hpost]
    rcases hraises with ⟨e, hpath⟩ | ⟨path, hpath, hauthed⟩
    · refine ⟨e, bind_congr fun body => ?_⟩
      rw [hpath]
      rfl
    · refine ⟨.typeError, bind_congr fun body => ?_⟩
      rw [hpath, hauthed]
      rfl
  · rw [if_neg hpost, if_pos (hcommand.resolve_left hpost)]
    rcases hraises with ⟨e, hpath⟩ | ⟨path, hpath, hauthed⟩
    · refine ⟨e, bind_congr fun body => ?_⟩
      rw [hpath]
      rfl
    · refine ⟨.typeError, bind_congr fun body => ?_⟩
      rw [hpath, hauthed]
      rfl

/-- That is an execution without an answer. -/
theorem not_refusesUniformly (h : ¬ Comparable server request) :
    ¬ RefusesUniformly server request := by
  intro hrefuses
  obtain ⟨e, heq⟩ := handle_eq_raise h
  obtain ⟨τ, body, hexec, hanswered⟩ := readRequestBody_succeeds server request .empty
  have hraised : Exec serverEnv (handle server request) .empty (τ ++ []) (.done (.error e))
      .empty := by
    rw [heq]
    exact hexec.bind .raise
  have hended := (hrefuses _ _ _ _ hraised).answered
    (hanswered.append fun e he => absurd he List.not_mem_nil)
  cases hended.2

end

/-- **Uniform rejection.** A request whose token is not the bearer is refused in every execution,
like one for a route that is not served, if and only if nothing raises before the comparison is
through: for a served method, `urlsplit` takes the path, and token and bearer are ASCII. -/
theorem refusesUniformly_iff (server : ProposalServer) (request : HttpRequest)
    (hwrong : presented request ≠ server.sessionBearer) :
    (RefusesUniformly server request ↔ Comparable server request) ∧
      (Comparable server request → handle server request = reject server request) ∧
      ∀ other, Readable server other → Unserved server other →
        handle server other = reject server other := by
  refine ⟨⟨fun hrefuses => ?_, fun h => ?_⟩, handle_eq_reject hwrong,
    fun other => handle_unserved⟩
  · by_contra hnot
    exact not_refusesUniformly hnot hrefuses
  · intro s τ r s' hexec
    rw [handle_eq_reject hwrong h] at hexec
    exact hexec.post reject_refuses

/-! ### Two requests -/

/-- A server that takes every path as it is. -/
def sampleServer : ProposalServer where
  library :=
    { urlPath := fun url => .ok url
      int := fun s => if s = str "0" then some 0 else none
      loads := fun _ => .error .valueError }
  platform := samplePlatform
  config := { ttlSeconds := 60, mintsMessageId := false, requireMessageId := false }
  sessionBearer := str "t"

/-- `GET /proposal/p1` with a header. -/
def statusRequest (authorization : String) : HttpRequest where
  command := str "GET"
  path := str "/proposal/p1"
  authorization := some (str authorization)

theorem statusRequest_wrong :
    presented (statusRequest "Bearer u") ≠ str "t" ∧
      presented (statusRequest "Bearer é") ≠ str "t" ∧
      isAscii (presented (statusRequest "Bearer u")) = true ∧
      isAscii (presented (statusRequest "Bearer é")) = false ∧ isAscii (str "t") = true := by
  decide

/-- A wrong bearer is refused. -/
theorem refusesUniformly_iff_wrong :
    RefusesUniformly sampleServer (statusRequest "Bearer u") := by
  obtain ⟨hwrong, -, htoken, -, hbearer⟩ := statusRequest_wrong
  exact (refusesUniformly_iff sampleServer (statusRequest "Bearer u") hwrong).1.mpr
    fun _ => ⟨⟨_, rfl⟩, htoken, hbearer⟩

/-- On one with an accent the handler raises. -/
theorem handle_raises_nonAscii :
    ¬ ∀ (server : ProposalServer) (request : HttpRequest),
      presented request ≠ server.sessionBearer → RefusesUniformly server request := by
  intro hclaim
  obtain ⟨-, hwrong, -, htoken, -⟩ := statusRequest_wrong
  refine not_refusesUniformly (fun h => ?_) (hclaim sampleServer (statusRequest "Bearer é") hwrong)
  rw [(h (.inr rfl)).token] at htoken
  cases htoken

end ProposalServer

end GmailGateway
