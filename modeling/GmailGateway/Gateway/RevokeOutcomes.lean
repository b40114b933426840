import GmailGateway.Gateway.RefreshFailures
import GmailGateway.Gateway.TokenRevoke

/-!
# GmailGateway.Gateway.RevokeOutcomes

**A revocation never claims more than happened.** What the leg of Disconnect does is a short list
(`Disconnected`): without a token it does nothing, and otherwise it posts the token at most once and
classifies what came back. It is truthful exactly if nothing unforeseen is raised: three layers map
exceptions, and each knows the `OSError` family only.

The same is read off for the standard library's transport, with its own points of failure.
-/

namespace GmailGateway

open Effect Proc Python

/-! ### What may come back -/

/-- The token to revoke: the refresh token, and the access token only where there is none. -/
inductive Credentials.Revokes (credentials : Credentials) : PyStr → Prop
  | refresh {token : PyStr} : credentials.refreshToken = some token → token ≠ [] →
      credentials.Revokes token
  | access {token : PyStr} : credentials.refreshToken.getD [] = [] →
      credentials.accessToken = some token → token ≠ [] → credentials.Revokes token

theorem Credentials.revokes_token {credentials : Credentials} (h : credentials.token ≠ []) :
    credentials.Revokes credentials.token := by
  obtain ⟨refreshToken, accessToken⟩ := credentials
  rcases refreshToken with _ | _ | ⟨c, cs⟩
  · cases accessToken with
    | none => exact absurd rfl h
    | some token => exact .access rfl rfl h
  · cases accessToken with
    | none => exact absurd rfl h
    | some token => exact .access rfl rfl h
  · exact .refresh rfl h

/-- Any transport: it returns any status and body, or raises anything. -/
def anyTransport : Env TransportSig Exc Unit := anyAnswer fun _ _ => True

/-- What the revoker has a clause for. -/
def Exc.isTransportError : Exc → Bool
  | .egressBlocked _ _ => true
  | e => e.isOSError

/-- What the endpoint answered. -/
def TransportEvent.answer : TransportEvent → EndpointAnswer
  | ⟨.post _ _ _, a⟩ => a

namespace TokenRevoker

/-- The answer gives a result: what is raised is foreseen, and a status that is named in the reason
can be written. -/
def Reportable : EndpointAnswer → Prop
  | .ok (status, _) => (200 ≤ status ∧ status < 300) ∨
      (natDecimal status.natAbs).length ≤ intMaxStrDigits
  | .error e => e.isTransportError = true

/-! ### Reporting -/

/-- The pair that Disconnect gets. -/
def evidence (x : Except Exc RevokeResult) : Except Exc (RevokeOutcome × PyStr) :=
  x.map fun result => (result.outcome, result.reason.getD [])

theorem formatInt_cases (n : Int) :
    ((natDecimal n.natAbs).length ≤ intMaxStrDigits ∧
      ∃ text, GmailSender.formatInt n = .ok text) ∨
    ¬ (natDecimal n.natAbs).length ≤ intMaxStrDigits ∧
      GmailSender.formatInt n = .error .valueError := by
  rw [GmailSender.formatInt]
  split
  · rename_i hlong
    exact .inr ⟨Nat.not_le.mpr hlong, rfl⟩
  · rename_i hshort
    exact .inl ⟨Nat.not_lt.mp hshort, _, rfl⟩

theorem evidence_error {e : Exc} :
    (e.isTransportError = true ∧ ∃ reason, evidence (report (.error e)) = .ok (.unknown, reason)) ∨
    e.isTransportError = false ∧ evidence (report (.error e)) = .error e := by
  cases e with
  | egressBlocked | timeout | urlError | osError => exact .inl ⟨rfl, _, rfl⟩
  | _ => exact .inr ⟨rfl, rfl⟩

theorem evidence_ok (response : HttpResponse) :
    ((200 ≤ response.status ∧ response.status < 300) ∧
      ∃ reason, evidence (report (.ok response)) = .ok (.confirmed, reason)) ∨
    ((400 ≤ response.status ∧ response.status < 500) ∧
      ∃ reason, evidence (report (.ok response)) = .ok (.failed, reason)) ∨
    (¬ (200 ≤ response.status ∧ response.status < 300) ∧
      ¬ (400 ≤ response.status ∧ response.status < 500)) ∧
      (((natDecimal response.status.natAbs).length ≤ intMaxStrDigits ∧
          ∃ reason, evidence (report (.ok response)) = .ok (.unknown, reason)) ∨
        ¬ (natDecimal response.status.natAbs).length ≤ intMaxStrDigits ∧
          evidence (report (.ok response)) = .error .valueError) := by
  rw [report, classify]
  split
  · rename_i hconfirmed
    exact .inl ⟨hconfirmed, _, rfl⟩
  · rename_i hnot
    split
    · rename_i hfailed
      rw [GmailSender.formatInt_ok hfailed.1 hfailed.2]
      exact .inr (.inl ⟨hfailed, _, rfl⟩)
    · rename_i hnot'
      refine .inr (.inr ⟨⟨hnot, hnot'⟩, ?_⟩)
      rcases formatInt_cases response.status with ⟨hshort, text, htext⟩ | ⟨hlong, herror⟩
      · rw [htext]
        exact .inl ⟨hshort, _, rfl⟩
      · rw [herror]
        exact .inr ⟨hlong, rfl⟩

/-! ### One call -/

section
variable (revoker : TokenRevoker) (credentials : Credentials)

/-- The post of a form. -/
abbrev posting (body : Bytes) (a : EndpointAnswer) : TransportEvent :=
  ⟨.post revoker.endpoint formHeaders body, a⟩

/-- What a call did, and its result. -/
inductive Disconnected : List TransportEvent → Except Exc (RevokeOutcome × PyStr) → Prop
  | tokenless : credentials.token = [] →
      Disconnected [] (.ok (.unknown, str "no_token_in_record"))
  | unencodable : credentials.token ≠ [] → encodeUtf8 credentials.token = none →
      Disconnected [] (.error .unicodeEncodeError)
  | unposted {body : Bytes} {e : Exc} : credentials.token ≠ [] →
      formBody [(str "token", credentials.token)] = .ok body →
      revoker.client.checkHost revoker.library revoker.endpoint = .error e →
      Disconnected [] (evidence (report (.error e)))
  | posted {body : Bytes} {host : PyStr} {a : EndpointAnswer} : credentials.token ≠ [] →
      formBody [(str "token", credentials.token)] = .ok body →
      revoker.client.checkHost revoker.library revoker.endpoint = .ok host →
      Disconnected [posting revoker body a]
        (evidence (report (a.map fun r => { status := r.1, body := r.2, host })))

variable {revoker credentials}

/-- The form has no encoding exactly if the token has none. -/
theorem formBody_token (token : PyStr) :
    (encodeUtf8 token = none ∧ formBody [(str "token", token)] = .error .unicodeEncodeError) ∨
    encodeUtf8 token ≠ none ∧ ∃ body, formBody [(str "token", token)] = .ok body := by
  have hfields : (∃ field ∈ [(str "token", token)],
      encodeUtf8 field.1 = none ∨ encodeUtf8 field.2 = none) ↔ encodeUtf8 token = none := by
    simp [encodeUtf8_str]
  rcases RefreshingTokenProvider.formBody_cases [(str "token", token)] with ⟨hbad, h⟩ | ⟨hgood, h⟩
  · exact .inl ⟨hfields.mp hbad, h⟩
  · exact .inr ⟨fun hnone => hgood (hfields.mpr hnone), h⟩

theorem disconnect_eq (htoken : credentials.token ≠ []) :
    revoker.disconnect credentials = (do
      let answer ← attempt do
        let body ← embed (formBody [(str "token", credentials.token)])
        revoker.client.request revoker.library revoker.endpoint formHeaders body
      embed (evidence (report answer))) := by
  have hbuild : buildRevokeTokenRequest credentials.token revoker.endpoint =
      .ok ⟨revoker.endpoint, [(str "token", credentials.token)]⟩ := by
    rw [buildRevokeTokenRequest, rejectIf, if_neg htoken]
    rfl
  rw [disconnect, if_neg htoken, revoke, hbuild]
  change (attempt _ >>= fun answer => embed (report answer)) >>= _ = _
  rw [bind_assoc]
  refine bind_congr fun answer => ?_
  cases report answer <;> rfl

/-- **One call.** -/
theorem disconnect_meets : (revoker.disconnect credentials).sat anyTransport
    (fun τ _ => τ.length ≤ 1) (fun x τ _ => Disconnected revoker credentials τ x) [] () := by
  by_cases htoken : credentials.token = []
  · rw [disconnect, if_pos htoken]
    exact .tokenless htoken
  · rw [disconnect_eq htoken, sat_bind, sat_attempt, sat_bind, sat_embed]
    rcases formBody_token credentials.token with ⟨hnone, hbody⟩ | ⟨-, body, hbody⟩
    · rw [hbody]
      exact .unencodable htoken hnone
    · rw [hbody, andThen_ok, EgressGuardedClient.request, sat_bind, sat_embed]
      cases hhost : revoker.client.checkHost revoker.library revoker.endpoint with
      | error e =>
          change Proc.sat _ _ _ (embed (evidence (report (.error e)))) _ _
          rw [sat_embed]
          exact .unposted htoken hbody hhost
      | ok host =>
          rw [andThen_ok, sat_bind, sat_perform]
          intro a _ _
          refine ⟨Nat.le_refl 1, ?_⟩
          have hposted : Disconnected revoker credentials [posting revoker body a]
              (evidence (report (a.map fun r => { status := r.1, body := r.2, host }))) :=
            .posted htoken hbody hhost
          cases a with
          | error e =>
              change Proc.sat _ _ _ (embed (evidence (report (.error e)))) _ _
              rw [sat_embed]
              exact hposted
          | ok r =>
              change Proc.sat _ _ _ (embed (evidence (report (.ok ⟨r.1, r.2, host⟩)))) _ _
              rw [sat_embed]
              exact hposted

end

/-! ### Truthful revocations -/

section
variable (revoker : TokenRevoker) (credentials : Credentials)

/-- An outcome says what the provider did with the token, and one is returned. -/
structure Truthful (τ : List TransportEvent) (x : Except Exc (RevokeOutcome × PyStr)) : Prop where
  once : τ.length ≤ 1
  token : ∀ e ∈ τ, ∃ token body, credentials.Revokes token ∧
    formBody [(str "token", token)] = .ok body ∧ e = posting revoker body e.answer
  returns : ∃ r, x = .ok r
  confirmed : (∃ reason, x = .ok (.confirmed, reason)) ↔
    ∃ e ∈ τ, GmailSender.Accepted e.answer
  failed : (∃ reason, x = .ok (.failed, reason)) ↔ ∃ e ∈ τ, GmailSender.Refused e.answer
  unknown : (∃ reason, x = .ok (.unknown, reason)) ↔
    ∀ e ∈ τ, ¬ GmailSender.Accepted e.answer ∧ ¬ GmailSender.Refused e.answer

/-- Nothing unforeseen is raised. -/
def Foreseen (answers : List EndpointAnswer) : Prop :=
  credentials.token = [] ∨ encodeUtf8 credentials.token ≠ none ∧
    (∀ e, revoker.library.urlsplit revoker.endpoint = .error e → e.isTransportError = true) ∧
    ∀ a ∈ answers, Reportable a

variable {revoker credentials} {τ : List TransportEvent} {x : Except Exc (RevokeOutcome × PyStr)}

theorem checkHost_ok {host : PyStr}
    (h : revoker.client.checkHost revoker.library revoker.endpoint = .ok host) :
    ∀ e, revoker.library.urlsplit revoker.endpoint = .error e → e.isTransportError = true := by
  intro e herror
  rw [EgressGuardedClient.checkHost, herror] at h
  cases h

theorem checkHost_error {e : Exc}
    (h : revoker.client.checkHost revoker.library revoker.endpoint = .error e) :
    e.isTransportError = true ↔ ∀ e', revoker.library.urlsplit revoker.endpoint = .error e' →
      e'.isTransportError = true := by
  rcases bind_eq_error.mp h with hsplit | ⟨⟨scheme, host⟩, hsplit, h⟩
  · rw [hsplit]
    refine ⟨fun he e' heq => ?_, fun hall => hall e rfl⟩
    cases heq
    exact he
  · -- what the client raises itself
    refine iff_of_true ?_ fun e' heq => by rw [hsplit] at heq; cases heq
    rcases bind_eq_error.mp h with hscheme | ⟨_, -, h⟩
    · rw [rejectIf] at hscheme
      split at hscheme
      · cases hscheme
        rfl
      · cases hscheme
    · split at h
      · cases h
        rfl
      · cases h

theorem returns_report {a : EndpointAnswer} {host : PyStr} :
    (∃ r, evidence (report (a.map fun r => { status := r.1, body := r.2, host })) = .ok r) ↔
      Reportable a := by
  rcases a with e | ⟨status, body⟩
  · rcases evidence_error with ⟨he, reason, h⟩ | ⟨he, h⟩
    · exact iff_of_true ⟨_, h⟩ he
    · refine iff_of_false ?_ fun hreport => ?_
      · rintro ⟨r, hr⟩
        cases h.symm.trans hr
      · cases he.symm.trans hreport
  · rcases evidence_ok ⟨status, body, host⟩ with ⟨hstatus, reason, h⟩ | ⟨hstatus, reason, h⟩ |
      ⟨hnot, ⟨hshort, reason, h⟩ | ⟨hlong, h⟩⟩
    · exact iff_of_true ⟨_, h⟩ (.inl hstatus)
    · refine iff_of_true ⟨_, h⟩ (.inr ?_)
      rcases formatInt_cases status with ⟨hshort, -⟩ | ⟨-, herror⟩
      · exact hshort
      · cases (GmailSender.formatInt_ok hstatus.1 hstatus.2).symm.trans herror
    · exact iff_of_true ⟨_, h⟩ (.inr hshort)
    · refine iff_of_false ?_ fun hreport => hreport.elim hnot.1 hlong
      rintro ⟨r, hr⟩
      cases h.symm.trans hr

theorem Disconnected.returns_iff (h : Disconnected revoker credentials τ x) :
    (∃ r, x = .ok r) ↔ Foreseen revoker credentials (τ.map TransportEvent.answer) := by
  cases h with
  | tokenless htoken => exact iff_of_true ⟨_, rfl⟩ (.inl htoken)
  | unencodable htoken hnone =>
      refine iff_of_false ?_ fun hforeseen => ?_
      · rintro ⟨r, hr⟩
        cases hr
      · exact hforeseen.elim htoken fun h => h.1 hnone
  | @unposted body e htoken hbody hhost =>
      have hencodes : encodeUtf8 credentials.token ≠ none := by
        rcases formBody_token credentials.token with ⟨-, h⟩ | ⟨h, -⟩
        · cases hbody.symm.trans h
        · exact h
      rw [Foreseen, or_iff_right htoken, and_iff_right hencodes, ← checkHost_error hhost]
      rcases @evidence_error e with ⟨he, reason, h⟩ | ⟨he, h⟩
      · exact iff_of_true ⟨_, h⟩ ⟨he, fun a ha => absurd ha List.not_mem_nil⟩
      · refine iff_of_false ?_ fun hforeseen => ?_
        · rintro ⟨r, hr⟩
          cases h.symm.trans hr
        · cases he.symm.trans hforeseen.1
  | posted htoken hbody hhost =>
      have hencodes : encodeUtf8 credentials.token ≠ none := by
        rcases formBody_token credentials.token with ⟨-, h⟩ | ⟨h, -⟩
        · cases hbody.symm.trans h
        · exact h
      rw [returns_report, Foreseen, or_iff_right htoken, and_iff_right hencodes,
        and_iff_right (checkHost_ok hhost)]
      exact List.forall_mem_singleton.symm

theorem Disconnected.posts_le (h : Disconnected revoker credentials τ x) : τ.length ≤ 1 := by
  cases h <;> first | exact Nat.zero_le 1 | exact Nat.le_refl 1

theorem Disconnected.token (h : Disconnected revoker credentials τ x) : ∀ e ∈ τ, ∃ token body,
    credentials.Revokes token ∧ formBody [(str "token", token)] = .ok body ∧
      e = posting revoker body e.answer := by
  cases h with
  | posted htoken hbody _ =>
      intro e he
      cases List.mem_singleton.mp he
      exact ⟨_, _, Credentials.revokes_token htoken, hbody, rfl⟩
  | _ => exact fun e he => absurd he List.not_mem_nil

theorem outcome_report {a : EndpointAnswer} {host : PyStr} {r : RevokeOutcome × PyStr}
    (h : evidence (report (a.map fun r => { status := r.1, body := r.2, host })) = .ok r) :
    (r.1 = .confirmed ↔ GmailSender.Accepted a) ∧ (r.1 = .failed ↔ GmailSender.Refused a) ∧
      (r.1 = .unknown ↔ ¬ GmailSender.Accepted a ∧ ¬ GmailSender.Refused a) := by
  rcases a with e | ⟨status, body⟩
  · rcases @evidence_error e with ⟨-, reason, he⟩ | ⟨-, he⟩
    · cases h.symm.trans he
      simp [GmailSender.Accepted, GmailSender.Refused]
    · cases h.symm.trans he
  · have haccepted : GmailSender.Accepted (.ok (status, body)) ↔ 200 ≤ status ∧ status < 300 :=
      Iff.rfl
    have hrefused : GmailSender.Refused (.ok (status, body)) ↔ 400 ≤ status ∧ status < 500 :=
      Iff.rfl
    rw [haccepted, hrefused]
    rcases evidence_ok ⟨status, body, host⟩ with ⟨hstatus, reason, hok⟩ | ⟨hstatus, reason, hok⟩ |
      ⟨hnot, ⟨-, reason, hok⟩ | ⟨-, herror⟩⟩
    · cases h.symm.trans hok
      dsimp only at hstatus
      simp only [reduceCtorEq, true_iff, false_iff]
      omega
    · cases h.symm.trans hok
      dsimp only at hstatus
      simp only [reduceCtorEq, true_iff, false_iff]
      omega
    · cases h.symm.trans hok
      dsimp only at hnot
      simp only [reduceCtorEq, true_iff, false_iff]
      exact ⟨hnot.1, hnot.2, hnot⟩
    · cases h.symm.trans herror

/-- An outcome that is returned is the right one. -/
theorem Disconnected.outcome {r : RevokeOutcome × PyStr}
    (h : Disconnected revoker credentials τ (.ok r)) :
    (r.1 = .confirmed ↔ ∃ e ∈ τ, GmailSender.Accepted e.answer) ∧
    (r.1 = .failed ↔ ∃ e ∈ τ, GmailSender.Refused e.answer) ∧
    (r.1 = .unknown ↔ ∀ e ∈ τ, ¬ GmailSender.Accepted e.answer ∧
      ¬ GmailSender.Refused e.answer) := by
  generalize hx : (Except.ok r : Except Exc (RevokeOutcome × PyStr)) = x at h
  have hunknown : r.1 = .unknown → (r.1 = .confirmed ↔ ∃ e ∈ ([] : List TransportEvent),
        GmailSender.Accepted e.answer) ∧
      (r.1 = .failed ↔ ∃ e ∈ ([] : List TransportEvent), GmailSender.Refused e.answer) ∧
      (r.1 = .unknown ↔ ∀ e ∈ ([] : List TransportEvent), ¬ GmailSender.Accepted e.answer ∧
        ¬ GmailSender.Refused e.answer) := by
    intro hr
    simp [hr]
  cases h with
  | tokenless =>
      cases hx
      exact hunknown rfl
  | unencodable => cases hx
  | @unposted body e =>
      rcases @evidence_error e with ⟨-, reason, he⟩ | ⟨-, he⟩
      · cases hx.trans he
        exact hunknown rfl
      · cases hx.trans he
  | @posted body host a =>
      have hanswer : TransportEvent.answer (posting revoker body a) = a := rfl
      simpa [hanswer] using outcome_report hx.symm

theorem exists_reason {r : RevokeOutcome × PyStr} {outcome : RevokeOutcome} :
    (∃ reason, (Except.ok r : Except Exc _) = .ok (outcome, reason)) ↔ r.1 = outcome := by
  obtain ⟨outcome', reason⟩ := r
  simp

/-- **Truthful.** -/
theorem Disconnected.truthful_iff (h : Disconnected revoker credentials τ x) :
    Truthful revoker credentials τ x ↔
      Foreseen revoker credentials (τ.map TransportEvent.answer) := by
  refine ⟨fun htruthful => h.returns_iff.mp htruthful.returns, fun hforeseen => ?_⟩
  obtain ⟨r, rfl⟩ := h.returns_iff.mpr hforeseen
  obtain ⟨hconfirmed, hfailed, hunknown⟩ := h.outcome
  exact ⟨h.posts_le, h.token, ⟨r, rfl⟩, exists_reason.trans hconfirmed, exists_reason.trans hfailed,
    exists_reason.trans hunknown⟩

end

/-! ### Over the standard library's transport -/

/-- What one invocation of the transport did, and its answer. -/
inductive Transported (url : PyStr) (headers : List (PyStr × PyStr)) (body : Bytes) :
    List OpenerEvent → EndpointAnswer → Prop
  | unopened {e : Exc} : Transported url headers body [⟨.urlopen url headers body, .error e⟩] (.error e)
  | read {status : Int} {data : Bytes} : 100 ≤ status ∧ status ≤ 999 →
      Transported url headers body
        [⟨.urlopen url headers body, .ok (.response status)⟩, ⟨.read, .ok data⟩] (.ok (status, data))
  | unread {status : Int} {e : Exc} : Transported url headers body
      [⟨.urlopen url headers body, .ok (.response status)⟩, ⟨.read, .error e⟩] (.error e)
  | errorRead {code : Int} {data : Bytes} : 100 ≤ code ∧ code ≤ 999 →
      Transported url headers body
        [⟨.urlopen url headers body, .ok (.httpError code)⟩, ⟨.readError, .ok data⟩]
        (.ok (code, data))
  | errorDropped {code : Int} {e : Exc} : 100 ≤ code ∧ code ≤ 999 → e.isOSError = true →
      Transported url headers body
        [⟨.urlopen url headers body, .ok (.httpError code)⟩, ⟨.readError, .error e⟩] (.ok (code, []))
  | errorUnread {code : Int} {e : Exc} : e.isOSError = false → Transported url headers body
      [⟨.urlopen url headers body, .ok (.httpError code)⟩, ⟨.readError, .error e⟩] (.error e)

/-- What every invocation of the transport did. -/
inductive Transports : List TransportEvent → List OpenerEvent → Prop
  | nil : Transports [] []
  | snoc {τ : List TransportEvent} {θ evs : List OpenerEvent} {url : PyStr}
      {headers : List (PyStr × PyStr)} {body : Bytes} {a : EndpointAnswer} : Transports τ θ →
      Transported url headers body evs a → Transports (τ ++ [⟨.post url headers body, a⟩]) (θ ++ evs)

/-- What the standard library raised. -/
def OpenerEvent.raised? : OpenerEvent → Option Exc
  | ⟨_, .error e⟩ => some e
  | _ => none

/-- The exceptions of the opener and of the responses, in their order. -/
def raisedBy (θ : List OpenerEvent) : List Exc := θ.filterMap OpenerEvent.raised?

/-- The event is the request, and not a reading of its body. -/
def OpenerEvent.opens : OpenerEvent → Bool
  | ⟨.urlopen _ _ _, _⟩ => true
  | _ => false

/-- The requests that were made. -/
def openings (θ : List OpenerEvent) : List OpenerEvent := θ.filter OpenerEvent.opens

theorem Transports.eq_nil {θ : List OpenerEvent} (h : Transports [] θ) : θ = [] := by
  generalize hτ : [] = τ at h
  cases h with
  | nil => rfl
  | snoc => simp at hτ

theorem Transported.alone {url : PyStr} {headers : List (PyStr × PyStr)} {body : Bytes}
    {evs : List OpenerEvent} {a : EndpointAnswer} (h : Transported url headers body evs a) :
    Transports [⟨.post url headers body, a⟩] evs := Transports.snoc .nil h

/-- The default transport. -/
theorem urllibTransport_meets (o : TransportOp) {τ : List TransportEvent} {θ : List OpenerEvent}
    (hone : ∀ a : Except Exc o.Ret, (τ ++ [(⟨o, a⟩ : TransportEvent)]).length ≤ 1)
    (h : Transports τ θ) :
    (urllibTransport o).sat openerEnv (fun θ' _ => (openings θ').length ≤ 1) (fun a θ' _ =>
      Transports (τ ++ [⟨o, a⟩]) θ') θ () := by
  obtain rfl : τ = [] := by
    have hlength := hone (.error .other)
    rw [List.length_append, List.length_singleton] at hlength
    exact List.length_eq_zero_iff.mp (by omega)
  obtain rfl := h.eq_nil
  obtain ⟨url, headers, body⟩ := o
  rw [urllibTransport, sat_bind, sat_perform]
  intro opened _ hopened
  refine ⟨Nat.le_refl 1, ?_⟩
  rcases opened with e | ⟨status⟩ | ⟨code⟩
  · exact Transported.unopened.alone
  · rw [andThen_ok]
    dsimp only
    rw [sat_bind]
    intro data _ _
    refine ⟨Nat.le_refl 1, ?_⟩
    cases data with
    | error e => exact Transported.unread.alone
    | ok data => exact (Transported.read hopened).alone
  · rw [andThen_ok]
    dsimp only
    rw [sat_bind, sat_handle]
    intro data _ _
    refine ⟨Nat.le_refl 1, ?_⟩
    cases data with
    | error e =>
        rw [sat_embed, andThen_error]
        cases hos : e.isOSError with
        | true => exact (Transported.errorDropped hopened hos).alone
        | false => exact (Transported.errorUnread hos).alone
    | ok data => exact (Transported.errorRead hopened).alone

theorem reportable_status {status : Int} {body : Bytes} (h : 100 ≤ status ∧ status ≤ 999) :
    Reportable (.ok (status, body)) := by
  have hne : status.natAbs ≠ 0 := by omega
  have hdigits : (Nat.digits 10 status.natAbs).length ≤ 3 :=
    (Nat.digits_length_le_iff (by decide) status.natAbs).mpr (by omega)
  refine .inr ?_
  rw [natDecimal, if_neg hne, List.length_map, List.length_reverse, intMaxStrDigits]
  omega

theorem isTransportError_of_isOSError {e : Exc} (h : e.isOSError = true) :
    e.isTransportError = true := by
  cases e <;> first | rfl | exact h

/-- On this transport an answer can be reported unless something unforeseen was raised. -/
theorem Transported.reportable_iff {url : PyStr} {headers : List (PyStr × PyStr)} {body : Bytes}
    {evs : List OpenerEvent} {a : EndpointAnswer} (h : Transported url headers body evs a) :
    Reportable a ↔ ∀ e ∈ raisedBy evs, e.isTransportError = true := by
  have hraised {evs : List OpenerEvent} {e : Exc} (hevs : raisedBy evs = [e]) :
      Reportable (.error e) ↔ ∀ e ∈ raisedBy evs, e.isTransportError = true := by
    rw [hevs]
    exact (List.forall_mem_singleton (p := fun e : Exc => e.isTransportError = true)).symm
  cases h with
  | unopened | unread | errorUnread => exact hraised rfl
  | read hstatus | errorRead hstatus =>
      exact iff_of_true (reportable_status hstatus) fun e he => absurd he List.not_mem_nil
  | errorDropped hstatus hos =>
      exact iff_of_true (reportable_status hstatus)
        fun e he => by
          cases List.mem_singleton.mp he
          exact isTransportError_of_isOSError hos

theorem Transports.reportable_iff {τ : List TransportEvent} {θ : List OpenerEvent}
    (h : Transports τ θ) : (∀ a ∈ τ.map TransportEvent.answer, Reportable a) ↔
      ∀ e ∈ raisedBy θ, e.isTransportError = true := by
  induction h with
  | nil =>
      exact iff_of_true (fun a ha => absurd ha List.not_mem_nil)
        fun e he => absurd he List.not_mem_nil
  | @snoc τ θ evs url headers body a _ htransported ih =>
      have hraised : raisedBy (θ ++ evs) = raisedBy θ ++ raisedBy evs := List.filterMap_append
      rw [List.map_append, List.forall_mem_append, ih, hraised, List.forall_mem_append,
        ← htransported.reportable_iff]
      exact and_congr_right fun _ => List.forall_mem_singleton

/-- Nothing unforeseen is raised, on the standard library's transport. -/
def ForeseenThere (revoker : TokenRevoker) (credentials : Credentials) (raised : List Exc) : Prop :=
  credentials.token = [] ∨ encodeUtf8 credentials.token ≠ none ∧
    (∀ e, revoker.library.urlsplit revoker.endpoint = .error e → e.isTransportError = true) ∧
    ∀ e ∈ raised, e.isTransportError = true

/-- **Remote revocation.** The transport is invoked at most once. A call that ended is truthful
exactly if nothing unforeseen was raised, on any transport and, in its own terms, on that of the
standard library. -/
theorem disconnect_truthful (revoker : TokenRevoker) (credentials : Credentials) :
    (∀ τ out, Exec anyTransport (revoker.disconnect credentials) () τ out () → τ.length ≤ 1) ∧
    (∀ τ x, Exec anyTransport (revoker.disconnect credentials) () τ (.done x) () →
      (Truthful revoker credentials τ x ↔
        Foreseen revoker credentials (τ.map TransportEvent.answer))) ∧
    (∀ θ out, Exec openerEnv ((revoker.disconnect credentials).implement urllibTransport) () θ out () →
      (openings θ).length ≤ 1) ∧
    ∀ θ x, Exec openerEnv ((revoker.disconnect credentials).implement urllibTransport) () θ (.done x)
        () → ∃ τ, Transports τ θ ∧
      (Truthful revoker credentials τ x ↔ ForeseenThere revoker credentials (raisedBy θ)) := by
  have hmeets : (revoker.disconnect credentials).sat anyTransport (fun τ _ => τ.length ≤ 1)
      (fun x τ _ => Disconnected revoker credentials τ x) [] () := disconnect_meets
  have hthere : ((revoker.disconnect credentials).implement urllibTransport).sat openerEnv
      (fun θ _ => (openings θ).length ≤ 1)
      (fun x θ _ => ∃ τ, ∃ _ : Unit, Transports τ θ ∧ Disconnected revoker credentials τ x) [] () := by
    refine sat_implement (R := fun τ _ θ _ => Transports τ θ) ?_ hmeets .nil
    intro o τ s θ t hone h
    refine sat_mono (urllibTransport_meets o (fun a => hone a () trivial) h) ?_
    exact fun a θ' _ h => ⟨(), trivial, h⟩
  refine ⟨fun τ out hx => ?_, fun τ x hx => (hx.post hmeets).truthful_iff, fun θ out hx => ?_,
    fun θ x hx => ?_⟩
  · by_cases hτ : τ = []
    · rw [hτ]
      exact Nat.zero_le 1
    · exact (hx.sound hmeets).1 hτ
  · by_cases hθ : θ = []
    · rw [hθ]
      exact Nat.zero_le 1
    · exact (hx.sound hthere).1 hθ
  · obtain ⟨τ, _, htransports, hdisconnected⟩ := hx.post hthere
    refine ⟨τ, htransports, hdisconnected.truthful_iff.trans ?_⟩
    rw [Foreseen, htransports.reportable_iff, ForeseenThere]

/-! ### A body that breaks off -/

/-- A revoker that knows one endpoint. -/
def sampleRevoker : TokenRevoker where
  library := { GmailSender.sampleLibrary with
    urlsplit := fun url =>
      if url = defaultRevokeEndpoint then .ok (str "https", some revokeHost)
      else .error .valueError }
  client := { allow := oauthAllowHosts }
  allow_eq := oauthAllowHosts_eq

/-- Credentials with a refresh token. -/
def sampleCredentials : Credentials where
  refreshToken := some (str "1//refresh")
  accessToken := some (str "old")

/-- The endpoint refuses, and the connection breaks while the error is read
(`http.client.IncompleteRead`). -/
def brokenError : (o : OpenerOp) → Except Exc o.Ret
  | .urlopen _ _ _ => .ok (.httpError 400)
  | .read => .ok []
  | .readError => .error .other

theorem brokenError_env (o : OpenerOp) : openerEnv () o (brokenError o) () := by
  cases o with
  | urlopen => exact ⟨by decide, by decide⟩
  | read | readError => trivial

/-- A revocation whose error body is cut off. -/
@[irreducible] def brokenErrorRun :
    List OpenerEvent × Outcome Exc (RevokeOutcome × PyStr) × Unit :=
  ((sampleRevoker.disconnect sampleCredentials).implement urllibTransport).run
    (fun _ _ o => (brokenError o, ())) 10 ()

/-- The code of an `HTTPError`. -/
def OpenerEvent.code? : OpenerEvent → Option Int
  | ⟨.urlopen _ _ _, .ok (.httpError code)⟩ => some code
  | _ => none

/-- The refusal is lost, and Disconnect gets an exception. -/
theorem disconnect_brokenError : ∃ θ x, Exec openerEnv
      ((sampleRevoker.disconnect sampleCredentials).implement urllibTransport) () θ (.done x) () ∧
    θ.filterMap OpenerEvent.code? = [400] ∧ x = .error .other ∧
    ∀ τ, ¬ Truthful sampleRevoker sampleCredentials τ x := by
  have hexec : Exec openerEnv
      ((sampleRevoker.disconnect sampleCredentials).implement urllibTransport) ()
      brokenErrorRun.1 brokenErrorRun.2.1 brokenErrorRun.2.2 := by
    unfold brokenErrorRun
    exact run_exec (fun _ _ o => brokenError_env o) 10 _ _
  obtain ⟨hraised, hcode⟩ : raisedOther brokenErrorRun.2.1 = true ∧
      brokenErrorRun.1.filterMap OpenerEvent.code? = [400] := by
    decide +kernel
  refine ⟨_, _, eq_of_raisedOther hraised ▸ hexec, hcode, rfl, fun τ htruthful => ?_⟩
  obtain ⟨r, hr⟩ := htruthful.returns
  cases hr

end TokenRevoker

end GmailGateway
