import GmailGateway.Gateway.RefreshSpec
import GmailGateway.Gateway.TerminalStatus

/-!
# GmailGateway.Gateway.RefreshFailures

**A failed refresh.** The sender handles one family of exceptions of its token provider: an
`OAuthError` means that Gmail was not contacted, so the message is not sent. A call of the provider
ends in a token or in that family exactly if nothing else can go wrong in it: a request that cannot
be built, a transport that raises something unforeseen, a response that its parser or its `split`
gives up on, and a record that cannot be rendered.
-/

namespace GmailGateway

open Effect Proc Python

/-- `isinstance(e, OAuthError)`. -/
def Exc.IsOAuth (e : Exc) : Prop := ∃ c m, e = .oauth c m

theorem Exc.not_isOAuth {e : Exc} (h : ∀ c m, e ≠ .oauth c m) : ¬ e.IsOAuth := by
  rintro ⟨c, m, he⟩
  exact h c m he

/-- It raised what is no exception of the gateway. -/
def raisedOther {α : Type} : Outcome Exc α → Bool
  | .done (.error .other) => true
  | _ => false

theorem eq_of_raisedOther {α : Type} {out : Outcome Exc α} (h : raisedOther out = true) :
    out = .done (.error .other) := by
  unfold raisedOther at h
  split at h
  · rfl
  · cases h

namespace RefreshingTokenProvider

/-! ### What else can go wrong -/

/-- Inputs that make no form: an empty one, or one that UTF-8 cannot carry. -/
def Formless (refreshToken clientId : PyStr) (clientSecret : Option PyStr) : Prop :=
  refreshToken = [] ∨ clientId = [] ∨ encodeUtf8 refreshToken = none ∨ encodeUtf8 clientId = none ∨
    ∃ secret ∈ clientSecret, encodeUtf8 secret = none

/-- The refresh inputs are there, but make no form. -/
def RequestGap (record : Dict) : Prop :=
  ∃ refreshToken clientId clientSecret,
    refreshInputs record = .ok (refreshToken, clientId, clientSecret) ∧
      Formless refreshToken clientId clientSecret

/-- A success whose body the parser gives up on, other than by `ValueError`, or that has a scope
which is no string. -/
def ResponseGap (loads : Bytes → Except Exc PyVal) (a : Int × Bytes) : Prop :=
  (200 ≤ a.1 ∧ a.1 < 300) ∧
    ((∃ e, loads a.2 = .error e ∧ e.isValueError = false ∧ ¬ e.IsOAuth) ∨
      ∃ data token, loads a.2 = .ok (.dict data) ∧
        Dict.get data (str "access_token") = .str token ∧
          Dict.get data (str "scope") ≠ .none ∧ ∀ scope, Dict.get data (str "scope") ≠ .str scope)

theorem formBody_cases (body : List (PyStr × PyStr)) :
    ((∃ field ∈ body, encodeUtf8 field.1 = none ∨ encodeUtf8 field.2 = none) ∧
      formBody body = .error .unicodeEncodeError) ∨
    (¬ ∃ field ∈ body, encodeUtf8 field.1 = none ∨ encodeUtf8 field.2 = none) ∧
      ∃ data, formBody body = .ok data := by
  rw [← urlencode_eq_none, formBody]
  cases urlencode body with
  | none => exact .inl ⟨rfl, rfl⟩
  | some text => exact .inr ⟨fun h => (by cases h), _, rfl⟩

/-- The form is made, or the inputs make none. -/
theorem form_cases (refreshToken clientId : PyStr) (clientSecret : Option PyStr) :
    (Formless refreshToken clientId clientSecret ∧ ∃ e,
      (buildRefreshTokenRequest refreshToken clientId clientSecret >>= fun request =>
        formBody request.body) = .error e ∧ ¬ e.IsOAuth) ∨
    ¬ Formless refreshToken clientId clientSecret ∧ ∃ body,
      (buildRefreshTokenRequest refreshToken clientId clientSecret >>= fun request =>
        formBody request.body) = .ok body := by
  by_cases htoken : refreshToken = []
  · refine .inl ⟨.inl htoken, .valueError, ?_, Exc.not_isOAuth fun _ _ h => by cases h⟩
    rw [buildRefreshTokenRequest, rejectIf, if_pos htoken]
    rfl
  by_cases hclient : clientId = []
  · refine .inl ⟨.inr (.inl hclient), .valueError, ?_, Exc.not_isOAuth fun _ _ h => by cases h⟩
    rw [buildRefreshTokenRequest, rejectIf, if_neg htoken, rejectIf, if_pos hclient]
    rfl
  let body := [(str "grant_type", str "refresh_token"), (str "refresh_token", refreshToken),
    (str "client_id", clientId)] ++
      (clientSecret.map fun secret => (str "client_secret", secret)).toList
  have hrequest : buildRefreshTokenRequest refreshToken clientId clientSecret =
      .ok ⟨defaultTokenEndpoint, body⟩ := by
    rw [buildRefreshTokenRequest, rejectIf, if_neg htoken, rejectIf, if_neg hclient]
    rfl
  have hfields : (∃ field ∈ body, encodeUtf8 field.1 = none ∨ encodeUtf8 field.2 = none) ↔
      Formless refreshToken clientId clientSecret := by
    cases clientSecret <;> simp [body, Formless, htoken, hclient, encodeUtf8_str]
  rw [hrequest]
  change (_ ∧ ∃ e, formBody body = .error e ∧ _) ∨ _ ∧ ∃ data, formBody body = .ok data
  rcases formBody_cases body with ⟨hbad, herror⟩ | ⟨hgood, hok⟩
  · exact .inl ⟨hfields.mp hbad, _, herror, Exc.not_isOAuth fun _ _ h => by cases h⟩
  · exact .inr ⟨fun h => hgood (hfields.mpr h), hok⟩

theorem refreshInputs_error {record : Dict} {e : Exc} (h : refreshInputs record = .error e) :
    e.IsOAuth := by
  unfold refreshInputs at h
  split at h
  · split at h
    · cases h
    · cases h
    · exact ⟨_, _, (Except.error.inj h).symm⟩
  · exact ⟨_, _, (Except.error.inj h).symm⟩

/-- Without a request, either the record has to be renewed or there is a gap. -/
theorem requestBody_error {record : Dict} {e : Exc} (h : requestBody record = .error e) :
    e.IsOAuth ↔ ¬ RequestGap record := by
  rcases bind_eq_error.mp h with hinputs | ⟨⟨refreshToken, clientId, clientSecret⟩, hinputs, h⟩
  · refine iff_of_true (refreshInputs_error hinputs) ?_
    rintro ⟨_, _, _, hok, -⟩
    rw [hinputs] at hok
    cases hok
  · dsimp only at h
    rcases form_cases refreshToken clientId clientSecret with ⟨hformless, e', he, hno⟩ | ⟨-, _, hok⟩
    · rw [he] at h
      cases h
      exact iff_of_false hno fun hgap => hgap ⟨_, _, _, hinputs, hformless⟩
    · rw [hok] at h
      cases h

theorem requestBody_ok {record : Dict} {body : Bytes} (h : requestBody record = .ok body) :
    ¬ RequestGap record := by
  rintro ⟨refreshToken, clientId, clientSecret, hinputs, hformless⟩
  obtain ⟨inputs, hinputs', h⟩ := bind_eq_ok.mp h
  rw [hinputs] at hinputs'
  cases hinputs'
  dsimp only at h
  rcases form_cases refreshToken clientId clientSecret with ⟨-, e, he, -⟩ | ⟨hform, -⟩
  · rw [he] at h
    cases h
  · exact hform hformless

/-! ### Reading a response -/

section Response
variable {loads : Bytes → Except Exc PyVal} {a : Int × Bytes}

theorem checkScope_str {result : TokenResult} {scope : PyStr} (h : result.scope = .str scope) :
    (∃ e, checkScope result = .error e ∧ e.IsOAuth) ∨ ∃ result', checkScope result = .ok result' := by
  unfold checkScope
  rw [h]
  dsimp only
  split
  · exact .inr ⟨_, rfl⟩
  · exact .inl ⟨_, rfl, _, _, rfl⟩

theorem checkScope_other {result : TokenResult} (hnone : result.scope ≠ .none)
    (hstr : ∀ scope, result.scope ≠ .str scope) : checkScope result = .error .other := by
  unfold checkScope
  split
  · rename_i h
    exact absurd h hnone
  · rename_i scope h
    exact absurd h (hstr scope)
  · rfl

/-- A body that is no object with a string for an access token. -/
theorem fromResponse_refused {body : Bytes}
    (h : (∃ e, loads body = .error e ∧ e.isValueError = true) ∨
      ∃ v, loads body = .ok v ∧ ∀ data token, v = .dict data →
        Dict.get data (str "access_token") ≠ .str token) :
    ∃ m, TokenResult.fromResponse loads body = .error (.oauth .exchange m) := by
  unfold TokenResult.fromResponse
  rcases h with ⟨e, hloads, he⟩ | ⟨v, hloads, hv⟩
  · rw [hloads]
    dsimp only
    rw [if_pos he]
    exact ⟨_, rfl⟩
  · rw [hloads]
    cases v with
    | dict data =>
        dsimp only
        split
        · rename_i token htoken
          exact absurd htoken (hv data token rfl)
        · exact ⟨_, rfl⟩
    | _ => exact ⟨_, rfl⟩

theorem fromResponse_object {body : Bytes} {data : Dict} {token : PyStr}
    (hloads : loads body = .ok (.dict data)) (htoken : data.get (str "access_token") = .str token) :
    ∃ result, TokenResult.fromResponse loads body = .ok result ∧ result.accessToken = token ∧
      result.refreshToken = data.get (str "refresh_token") ∧
      result.scope = data.get (str "scope") := by
  unfold TokenResult.fromResponse
  rw [hloads]
  dsimp only
  rw [htoken]
  exact ⟨_, rfl, rfl, rfl, rfl⟩

/-- A success is refused with an `OAuthError` or accepted, or it has a gap. -/
theorem readSuccess_cases (hsuccess : 200 ≤ a.1 ∧ a.1 < 300) :
    (ResponseGap loads a ∧ ∃ e, readSuccess loads a.2 = .error e ∧ ¬ e.IsOAuth) ∨
    ¬ ResponseGap loads a ∧ ((∃ e, readSuccess loads a.2 = .error e ∧ e.IsOAuth) ∨
      ∃ result, readSuccess loads a.2 = .ok result) := by
  have hrefused : ∀ m, TokenResult.fromResponse loads a.2 = .error (.oauth .exchange m) →
      ∃ e, readSuccess loads a.2 = .error e ∧ e.IsOAuth := by
    intro m hm
    rw [readSuccess, hm]
    exact ⟨_, rfl, _, _, rfl⟩
  cases hloads : loads a.2 with
  | error e =>
      cases he : e.isValueError with
      | true =>
          obtain ⟨m, hm⟩ := fromResponse_refused (.inl ⟨e, hloads, he⟩)
          refine .inr ⟨?_, .inl (hrefused m hm)⟩
          rintro ⟨-, ⟨e', herror, he', -⟩ | ⟨_, _, hok, -⟩⟩
          · rw [hloads] at herror
            cases herror
            rw [he] at he'
            cases he'
          · rw [hloads] at hok
            cases hok
      | false =>
          have hfrom : TokenResult.fromResponse loads a.2 = .error e := by
            rw [TokenResult.fromResponse, hloads]
            dsimp only
            rw [if_neg (by simp [he])]
            rfl
          by_cases hoauth : e.IsOAuth
          · obtain ⟨c, m, rfl⟩ := hoauth
            refine .inr ⟨?_, .inl ?_⟩
            · rintro ⟨-, ⟨e', herror, -, hno⟩ | ⟨_, _, hok, -⟩⟩
              · rw [hloads] at herror
                cases herror
                exact hno ⟨c, m, rfl⟩
              · rw [hloads] at hok
                cases hok
            · rw [readSuccess, hfrom]
              exact ⟨_, rfl, _, _, rfl⟩
          · refine .inl ⟨⟨hsuccess, .inl ⟨e, hloads, he, hoauth⟩⟩, e, ?_, hoauth⟩
            rw [readSuccess, hfrom]
            split
            · rename_i c m heq
              cases heq
              exact absurd ⟨c, m, rfl⟩ hoauth
            · rename_i heq
              cases heq
              rfl
            · rename_i heq
              cases heq
  | ok v =>
      by_cases hobject : ∃ data token, v = .dict data ∧ Dict.get data (str "access_token") = .str token
      · obtain ⟨data, token, rfl, htoken⟩ := hobject
        obtain ⟨result, hfrom, -, -, hscope⟩ := fromResponse_object hloads htoken
        have hread : readSuccess loads a.2 = checkScope result := by rw [readSuccess, hfrom]
        rw [hread]
        by_cases hgap : Dict.get data (str "scope") ≠ .none ∧
            ∀ scope, Dict.get data (str "scope") ≠ .str scope
        · refine .inl ⟨⟨hsuccess, .inr ⟨data, token, hloads, htoken, hgap⟩⟩, .other, ?_,
            Exc.not_isOAuth fun _ _ h => by cases h⟩
          rw [← hscope] at hgap
          exact checkScope_other hgap.1 hgap.2
        · refine .inr ⟨?_, ?_⟩
          · rintro ⟨-, ⟨e', herror, -⟩ | ⟨data', _, hok, -, hgap'⟩⟩
            · rw [hloads] at herror
              cases herror
            · rw [hloads] at hok
              cases hok
              exact hgap hgap'
          · cases hvalue : Dict.get data (str "scope") with
            | none =>
                refine .inr ⟨result, ?_⟩
                rw [checkScope, hscope, hvalue]
                rfl
            | str scope => exact checkScope_str (hscope.trans hvalue)
            | _ =>
                rw [hvalue] at hgap
                exact absurd ⟨fun h => (by cases h), fun _ h => by cases h⟩ hgap
      · obtain ⟨m, hm⟩ := fromResponse_refused (.inr ⟨v, hloads, fun data token hv htoken =>
          hobject ⟨data, token, hv, htoken⟩⟩)
        refine .inr ⟨?_, .inl (hrefused m hm)⟩
        rintro ⟨-, ⟨e', herror, -⟩ | ⟨data, token, hok, htoken, -⟩⟩
        · rw [hloads] at herror
          cases herror
        · rw [hloads] at hok
          cases hok
          exact hobject ⟨data, token, rfl, htoken⟩

theorem readResponse_error {e : Exc} (h : readResponse loads (responseOf a) = .error e) :
    e.IsOAuth ↔ ¬ ResponseGap loads a := by
  unfold readResponse at h
  split at h
  · rename_i hstatus
    refine iff_of_true ?_ fun hgap => hstatus hgap.1
    split at h
    · exact ⟨_, _, (Except.error.inj h).symm⟩
    · exact ⟨_, _, (Except.error.inj h).symm⟩
  · rename_i hstatus
    have hread : readSuccess loads a.2 = .error e := h
    rcases @readSuccess_cases loads a (not_not.mp hstatus) with
      ⟨hgap, e', he, hno⟩ | ⟨hgap, ⟨e', he, hoauth⟩ | ⟨_, hok⟩⟩
    · rw [hread] at he
      cases he
      exact iff_of_false hno fun h => h hgap
    · rw [hread] at he
      cases he
      exact iff_of_true hoauth hgap
    · rw [hread] at hok
      cases hok

theorem readResponse_ok {result : TokenResult} (h : readResponse loads (responseOf a) = .ok result) :
    ¬ ResponseGap loads a := by
  unfold readResponse at h
  split at h
  · split at h <;> cases h
  · rename_i hstatus
    have hread : readSuccess loads a.2 = .ok result := h
    rcases @readSuccess_cases loads a (not_not.mp hstatus) with
      ⟨-, e, he, -⟩ | ⟨hgap, -⟩
    · rw [hread] at he
      cases he
    · exact hgap

end Response

/-! ### A call that fails closed -/

/-- A string, or an `OAuthError` that left the sealed record. -/
def FailsClosed (s : Records) (x : Except Exc PyVal) (s' : Records) : Prop :=
  (∃ token, x = .ok (.str token)) ∨ (∃ e, x = .error e ∧ e.IsOAuth) ∧ s' = s

section Call
variable (provider : RefreshingTokenProvider)

/-- What lets another exception out, where the token was not fresh. -/
inductive Escapes (record : Dict) : List Int → List EndpointAnswer → Prop
  | request {now : List Int} : provider.Stale record now → RequestGap record →
      Escapes record now []
  | transport {now : List Int} {e : Exc} : provider.Stale record now →
      ¬ (transportFailure e).IsOAuth → Escapes record now [.error e]
  | response {now : List Int} {a : Int × Bytes} : provider.Stale record now →
      ResponseGap provider.json.loads a → Escapes record now [.ok a]
  /-- The merged record has no JSON text. -/
  | storing {now : List Int} {a : Int × Bytes} {result : TokenResult} {refreshedAt : Int}
      {e : Exc} : provider.Stale record now →
      readResponse provider.json.loads (responseOf a) = .ok result →
      provider.json.dumps ((merged record result refreshedAt).blob (str "refresh")) = .error e →
      ¬ e.IsOAuth → Escapes record (now ++ [refreshedAt]) [.ok a]

variable {provider} {dek : Bytes} {record : Dict} {s s' : Records} {now : List Int}
  {answers : List EndpointAnswer} {x : Except Exc PyVal}

theorem failsClosed_error {e : Exc} : FailsClosed s (.error e) s ↔ e.IsOAuth := by
  constructor
  · rintro (⟨_, h⟩ | ⟨⟨e', h, he⟩, -⟩)
    · cases h
    · cases h
      exact he
  · exact fun he => .inr ⟨⟨e, rfl, he⟩, rfl⟩

/-- A gap lies in the request, the transport, the response or the storing. -/
theorem escapes_iff : provider.Escapes record now answers ↔
    (answers = [] ∧ provider.Stale record now ∧ RequestGap record) ∨
    (∃ e, answers = [.error e] ∧ provider.Stale record now ∧ ¬ (transportFailure e).IsOAuth) ∨
    (∃ a, answers = [.ok a] ∧ provider.Stale record now ∧ ResponseGap provider.json.loads a) ∨
    ∃ before a result refreshedAt e, answers = [.ok a] ∧ now = before ++ [refreshedAt] ∧
      provider.Stale record before ∧
      readResponse provider.json.loads (responseOf a) = .ok result ∧
      provider.json.dumps ((merged record result refreshedAt).blob (str "refresh")) = .error e ∧
      ¬ e.IsOAuth := by
  constructor
  · intro h
    cases h with
    | request hstale hgap => exact .inl ⟨rfl, hstale, hgap⟩
    | transport hstale hno => exact .inr (.inl ⟨_, rfl, hstale, hno⟩)
    | response hstale hgap => exact .inr (.inr (.inl ⟨_, rfl, hstale, hgap⟩))
    | storing hstale hread hdumps hno =>
        exact .inr (.inr (.inr ⟨_, _, _, _, _, rfl, rfl, hstale, hread, hdumps, hno⟩))
  · rintro (⟨rfl, hstale, hgap⟩ | ⟨e, rfl, hstale, hno⟩ | ⟨a, rfl, hstale, hgap⟩ |
      ⟨before, a, result, refreshedAt, e, rfl, rfl, hstale, hread, hdumps, hno⟩)
    · exact .request hstale hgap
    · exact .transport hstale hno
    · exact .response hstale hgap
    · exact .storing hstale hread hdumps hno

theorem escapes_nil : provider.Escapes record now [] ↔
    provider.Stale record now ∧ RequestGap record := by
  simp [escapes_iff]

theorem escapes_raised {e : Exc} : provider.Escapes record now [.error e] ↔
    provider.Stale record now ∧ ¬ (transportFailure e).IsOAuth := by
  simp [escapes_iff]

theorem escapes_unusable {a : Int × Bytes} {e : Exc}
    (hread : readResponse provider.json.loads (responseOf a) = .error e) :
    provider.Escapes record now [.ok a] ↔
      provider.Stale record now ∧ ResponseGap provider.json.loads a := by
  simp [escapes_iff, hread]

/-- A call whose response was usable: what is left is the rendering of the record. -/
theorem escapes_usable {a : Int × Bytes} {result : TokenResult} {refreshedAt : Int}
    (hstale : provider.Stale record now)
    (hread : readResponse provider.json.loads (responseOf a) = .ok result) :
    provider.Escapes record (now ++ [refreshedAt]) [.ok a] ↔
      ∃ e, provider.json.dumps ((merged record result refreshedAt).blob (str "refresh")) =
        .error e ∧ ¬ e.IsOAuth := by
  have hgap := readResponse_ok hread
  simp [escapes_iff, hread, hgap, hstale]

/-- A call fails closed exactly if nothing else came in its way. -/
theorem Accessed.failsClosed_iff (h : provider.Accessed dek record s now answers x s') :
    FailsClosed s x s' ↔ ¬ provider.Escapes record now answers := by
  cases h with
  | fresh hexpires hfresh _ =>
      refine iff_of_true (.inl ⟨_, rfl⟩) ?_
      rw [escapes_nil]
      rintro ⟨⟨expiresAt, he, hnot⟩, -⟩
      rw [hexpires] at he
      cases he
      exact hnot hfresh
  | unasked hstale hbody =>
      rw [failsClosed_error, requestBody_error hbody, escapes_nil, and_iff_right hstale]
  | unanswered hstale hbody =>
      rw [failsClosed_error, escapes_raised, and_iff_right hstale, not_not]
  | unusable hstale hbody hread =>
      rw [failsClosed_error, readResponse_error hread, escapes_unusable hread,
        and_iff_right hstale]
  | @unstored _ _ _ _ _ e hstale hbody hread hdumps =>
      rw [failsClosed_error, escapes_usable hstale hread, hdumps]
      constructor
      · rintro he ⟨e', herror, hno⟩
        cases herror
        exact hno he
      · exact fun hno => not_not.mp fun he => hno ⟨e, rfl, he⟩
  | refreshed hstale hbody hread hdumps _ =>
      refine iff_of_true (.inl ⟨_, rfl⟩) ?_
      rw [escapes_usable hstale hread, hdumps]
      rintro ⟨_, herror, -⟩
      cases herror

end Call

end RefreshingTokenProvider

end GmailGateway
