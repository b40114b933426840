import GmailGateway.Gateway.OAuthListener
import GmailGateway.Python.Forms

/-!
# GmailGateway.Gateway.OAuthRequests

**What an authorization server makes of the flow.** The server is stated here on its own: it notes
what an authorization request asks for, and redeems a code for a request that proves the same
client, redirect and proof key.

In every run the flow speaks to the server at most twice: it sends the browser to one URL, and
then redeems one code, of a genuine callback, with a body that the server accepts for what it noted.
-/

namespace GmailGateway

open Effect Proc Python

/-! ### The server -/

/-- What a code was granted for. -/
structure CodeGrant where
  clientId : PyStr
  redirectUri : PyStr
  codeChallenge : PyStr
  scope : PyStr
  state : PyStr

/-- What the server notes of an authorization request. -/
def CodeGrant.ofQuery (query : PyStr) : Option CodeGrant :=
  let fields : CallbackParams := parseQsl query
  if fields.getStr "response_type" = str "code" ∧
      fields.getStr "code_challenge_method" = str "S256" then
    some
      { clientId := fields.getStr "client_id"
        redirectUri := fields.getStr "redirect_uri"
        codeChallenge := fields.getStr "code_challenge"
        scope := fields.getStr "scope"
        state := fields.getStr "state" }
  else none

/-- The server redeems a code for `body`. -/
structure CodeGrant.Redeems (sha256 : Bytes → Bytes) (grant : CodeGrant) (body : Bytes) : Prop where
  grantType : CallbackParams.getStr (parseQsl (decodeUtf8Replace body)) "grant_type" =
    str "authorization_code"
  clientId : CallbackParams.getStr (parseQsl (decodeUtf8Replace body)) "client_id" = grant.clientId
  redirectUri : CallbackParams.getStr (parseQsl (decodeUtf8Replace body)) "redirect_uri" =
    grant.redirectUri
  verifier : (encodeUtf8 (CallbackParams.getStr (parseQsl (decodeUtf8Replace body))
    "code_verifier")).map (b64urlNopad ∘ sha256) = some grant.codeChallenge

/-! ### Reading a form back -/

theorem lookup_filter_ne_nil {fields : List (PyStr × PyStr)} {k v : PyStr}
    (h : fields.lookup k = some v) (hv : v ≠ []) :
    (fields.filter (·.2 ≠ [])).lookup k = some v := by
  induction fields with
  | nil => cases h
  | cons field fields ih =>
      obtain ⟨k', v'⟩ := field
      rw [List.lookup_cons] at h
      by_cases hk : k = k'
      · subst hk
        obtain rfl : v' = v := by simpa using h
        simp [hv]
      · have hbeq : (k == k') = false := beq_eq_false_iff_ne.mpr hk
        have hrest := ih (by simpa [hbeq] using h)
        by_cases hv' : v' = []
        · simpa [List.filter_cons, hv'] using hrest
        · simpa [List.filter_cons, hv', List.lookup_cons, hbeq] using hrest

/-- A blank field reads like one that is missing, provided no other one has its key. -/
theorem getStr_filter_ne_nil {fields : CallbackParams} (hkeys : (fields.map Prod.fst).Nodup)
    (key : String) :
    CallbackParams.getStr (fields.filter (·.2 ≠ [])) key = fields.getStr key := by
  cases hlookup : fields.lookup (str key) with
  | some v =>
      by_cases hv : v = []
      · subst hv
        have hnone : (fields.filter (·.2 ≠ [])).lookup (str key) = none := by
          refine List.lookup_eq_none_iff.mpr fun field hfield => bne_iff_ne.mpr fun hk => ?_
          obtain ⟨hmem, hvalue⟩ := List.mem_filter.mp hfield
          obtain ⟨before, after, hfields, -⟩ := List.lookup_eq_some_iff.mp hlookup
          have hfound : (str key, []) ∈ fields := by
            rw [hfields]
            exact List.mem_append_right _ List.mem_cons_self
          have hsame : field = (str key, []) :=
            List.inj_on_of_nodup_map hkeys hmem hfound hk.symm
          exact of_decide_eq_true hvalue (congrArg Prod.snd hsame)
        rw [CallbackParams.getStr, CallbackParams.getStr, hnone, hlookup]
        rfl
      · rw [CallbackParams.getStr, CallbackParams.getStr, lookup_filter_ne_nil hlookup hv, hlookup]
  | none =>
      have hnone : (fields.filter (·.2 ≠ [])).lookup (str key) = none :=
        List.lookup_eq_none_iff.mpr fun field hfield =>
          List.lookup_eq_none_iff.mp hlookup field (List.mem_of_mem_filter hfield)
      rw [CallbackParams.getStr, CallbackParams.getStr, hnone, hlookup]

/-- A form is read back field by field. -/
theorem getStr_parseQsl {fields : CallbackParams} {text : PyStr}
    (h : urlencode fields = some text) (hkeys : (fields.map Prod.fst).Nodup) (key : String) :
    CallbackParams.getStr (parseQsl text) key = fields.getStr key := by
  rw [parseQsl_urlencode h, getStr_filter_ne_nil hkeys]

/-- What `formBody` sends is what a form says. -/
theorem decode_formBody {body : List (PyStr × PyStr)} {data : Bytes}
    (h : formBody body = .ok data) :
    urlencode body = some (decodeUtf8Replace data) := by
  unfold formBody at h
  cases htext : urlencode body with
  | none =>
      rw [htext] at h
      cases h
  | some text =>
      rw [htext] at h
      obtain rfl : text.flatMap CodePoint.utf8 = data := Except.ok.inj h
      rw [decodeUtf8Replace_encodeUtf8 (encodeUtf8_of_isAscii (isAscii_urlencode htext))]

namespace LoopbackOAuthFlow

/-! ### What the flow says -/

/-- It leaves the program for the server. -/
def isSaid : LoopbackOp → Bool
  | .openBrowser _ | .post _ _ _ => true
  | _ => false

/-- What was said to the server, in order. -/
def said (τ : List LoopbackEvent) : List LoopbackOp :=
  (τ.filter fun e => isSaid e.op).map Event.op

variable {flow : LoopbackOAuthFlow}

/-- **A dialogue with the server**: the browser is sent to it, and then a code is redeemed under
the same proof key. -/
inductive Dialogue (flow : LoopbackOAuthFlow) (pkce : PkcePair) (state : PyStr) (port : Int) :
    List LoopbackOp → Prop
  | silent : Dialogue flow pkce state port []
  | asked {url : PyStr} (hurl : authorizationUrl flow pkce state port = .ok url) :
      Dialogue flow pkce state port [.openBrowser url]
  | redeemed {url code : PyStr} {request : TokenExchangeRequest} {body : Bytes}
      (hurl : authorizationUrl flow pkce state port = .ok url)
      (hrequest : buildTokenExchangeRequest flow.library code pkce.verifier flow.clientId
        (redirectUri flow port) flow.clientSecret flow.tokenEndpoint = .ok request)
      (hbody : formBody request.body = .ok body) :
      Dialogue flow pkce state port [.openBrowser url, .post request.endpoint formHeaders body]

/-- At any point the flow is in such a dialogue, with a key of its own and the issued state. -/
inductive Talks (flow : LoopbackOAuthFlow) (τ : List LoopbackEvent) : Prop
  | silent (h : said τ = [])
  | talking {pkce : PkcePair} {state : PyStr} {port : Int}
      (hkey : codeChallenge flow.library pkce.verifier = .ok pkce.challenge)
      (hissued : Issued τ state) (hsaid : Dialogue flow pkce state port (said τ))

section
variable {A : (o : LoopbackOp) → Except Exc o.Ret → Prop} {τ : List LoopbackEvent}
  {pkce : PkcePair} {state : PyStr} {port : Int}

theorem said_concat (e : LoopbackEvent) :
    said (τ ++ [e]) = said τ ++ if isSaid e.op = true then [e.op] else [] := by
  by_cases he : isSaid e.op = true <;> simp [said, he]

/-- The client of the flow posts on its transport. -/
theorem implement_request (url : PyStr) (headers : List (PyStr × PyStr)) (body : Bytes) :
    (flow.egress.request flow.library.mail url headers body).implement loopbackTransport =
      embed (EgressGuardedClient.checkHost flow.library.mail flow.egress url) >>= fun host =>
        perform (S := LoopbackSig) (.post url headers body) >>= fun answer =>
          pure { status := answer.1, body := answer.2, host } := by
  rw [EgressGuardedClient.request, implement_bind, implement_embed]
  refine bind_congr fun host => ?_
  rw [implement_bind, implement_perform]
  rfl

/-- An exchange redeems its code at most once. -/
theorem exchange_said {url code : PyStr} (hurl : authorizationUrl flow pkce state port = .ok url)
    (hsaid : said τ = [.openBrowser url]) :
    (exchange flow code pkce.verifier (redirectUri flow port)).sat (anyAnswer A)
      (fun τ _ => Dialogue flow pkce state port (said τ))
      (fun _ τ _ => Dialogue flow pkce state port (said τ)) τ () := by
  have hasked : Dialogue flow pkce state port (said τ) := hsaid ▸ .asked hurl
  simp only [exchange, implement_request, sat_bind, sat_embed]
  cases hrequest : buildTokenExchangeRequest flow.library code pkce.verifier flow.clientId
      (redirectUri flow port) flow.clientSecret flow.tokenEndpoint with
  | error e => exact hasked
  | ok request =>
      simp only [andThen_ok, sat_bind, sat_embed]
      cases hbody : formBody request.body with
      | error e => exact hasked
      | ok body =>
          simp only [andThen_ok, sat_bind, sat_embed]
          cases EgressGuardedClient.checkHost flow.library.mail flow.egress request.endpoint with
          | error e => exact hasked
          | ok host =>
              rw [andThen_ok, sat_perform_bind]
              intro r _ _
              have hredeemed : Dialogue flow pkce state port
                  (said (τ ++ [⟨.post request.endpoint formHeaders body, r⟩])) := by
                rw [said_concat, hsaid]
                exact .redeemed hurl hrequest hbody
              refine ⟨hredeemed, ?_⟩
              cases r with
              | error e => exact hredeemed
              | ok answer =>
                  generalize τ ++ [_] = τ' at hredeemed
                  simp only [andThen_ok, sat_pure, sat_bind, sat_embed]
                  cases flow.readResponse { status := answer.1, body := answer.2, host } with
                  | error e => exact hredeemed
                  | ok parsed =>
                      rw [andThen_ok, sat_perform_bind]
                      intro r _ _
                      have hnow : Dialogue flow pkce state port (said (τ' ++ [⟨.now, r⟩])) := by
                        rw [said_concat]
                        exact (List.append_nil (said τ')).symm ▸ hredeemed
                      refine ⟨hnow, ?_⟩
                      cases r <;> exact hnow

theorem said_concat_of_not {e : LoopbackEvent} (he : isSaid e.op = false) :
    said (τ ++ [e]) = said τ := by
  rw [said_concat, he]
  exact List.append_nil _

theorem awaitCallback_said {url : PyStr} (hurl : authorizationUrl flow pkce state port = .ok url)
    (hsaid : said τ = [.openBrowser url]) :
    (awaitCallback flow pkce state port).sat (anyAnswer A)
      (fun τ _ => Dialogue flow pkce state port (said τ))
      (fun _ τ _ => Dialogue flow pkce state port (said τ)) τ () := by
  have hasked : ∀ τ, said τ = [.openBrowser url] → Dialogue flow pkce state port (said τ) :=
    fun τ h => h ▸ .asked hurl
  rw [awaitCallback, sat_perform_bind]
  intro r _ _
  have hsaid₁ : said (τ ++ [⟨.waitDone, r⟩]) = [.openBrowser url] :=
    (said_concat_of_not rfl).trans hsaid
  generalize τ ++ [_] = τ₁ at hsaid₁
  refine ⟨hasked _ hsaid₁, ?_⟩
  cases r with
  | error e => exact hasked _ hsaid₁
  | ok arrived =>
      simp only [andThen_ok, sat_bind, sat_raiseIf]
      refine ⟨fun _ => hasked _ hsaid₁, fun _ => ?_⟩
      simp only [perform, sat_op, sat_embed]
      intro r _ _
      have hsaid₂ : said (τ₁ ++ [⟨.readCaptured, r⟩]) = [.openBrowser url] :=
        (said_concat_of_not rfl).trans hsaid₁
      generalize τ₁ ++ [_] = τ₂ at hsaid₂
      refine ⟨hasked _ hsaid₂, ?_⟩
      cases r with
      | error e => exact hasked _ hsaid₂
      | ok captured =>
          simp only [andThen_ok, sat_bind, sat_embed]
          cases extractAuthorizationCode (captured.getD []) state with
          | error e => exact hasked _ hsaid₂
          | ok code => exact exchange_said hurl hsaid₂

/-- What the `try` guards. -/
theorem consent_said (hsaid : said τ = []) :
    (consent flow pkce state port).sat (anyAnswer A)
      (fun τ _ => Dialogue flow pkce state port (said τ))
      (fun _ τ _ => Dialogue flow pkce state port (said τ)) τ () := by
  have hsilent : ∀ τ, said τ = [] → Dialogue flow pkce state port (said τ) :=
    fun τ h => h ▸ .silent
  have hbrowser : ∀ τ, said τ = [] →
      (do
        let authUrl ← embed (authorizationUrl flow pkce state port)
        perform (S := LoopbackSig) (.openBrowser authUrl)
        awaitCallback flow pkce state port).sat (anyAnswer A)
        (fun τ _ => Dialogue flow pkce state port (said τ))
        (fun _ τ _ => Dialogue flow pkce state port (said τ)) τ () := by
    intro τ hsaid
    simp only [sat_bind, sat_embed]
    cases hurl : authorizationUrl flow pkce state port with
    | error e => exact hsilent τ hsaid
    | ok url =>
        simp only [andThen_ok, sat_bind, perform, sat_op, sat_embed]
        intro r _ _
        have hsaid' : said (τ ++ [⟨.openBrowser url, r⟩]) = [.openBrowser url] := by
          rw [said_concat, hsaid]
          rfl
        have hasked : Dialogue flow pkce state port (said (τ ++ [⟨.openBrowser url, r⟩])) :=
          hsaid' ▸ .asked hurl
        refine ⟨hasked, ?_⟩
        cases r with
        | error e => exact hasked
        | ok _ => exact awaitCallback_said hurl hsaid'
  unfold consent
  split
  · simp only [sat_bind, perform, sat_op, sat_embed]
    intro r _ _
    have hsaid' : said (τ ++ [⟨.onRedirectUri (redirectUri flow port), r⟩]) = [] :=
      (said_concat_of_not rfl).trans hsaid
    refine ⟨hsilent _ hsaid', ?_⟩
    cases r with
    | error e => exact hsilent _ hsaid'
    | ok _ => exact hbrowser _ hsaid'
  · exact hbrowser τ hsaid

theorem Talks.concat {e : LoopbackEvent} (h : Talks flow τ) (he : isSaid e.op = false) :
    Talks flow (τ ++ [e]) := by
  cases h with
  | silent h => exact .silent ((said_concat_of_not he).trans h)
  | talking hkey hissued hsaid =>
      exact .talking hkey (hissued.append _) ((said_concat_of_not he).symm ▸ hsaid)

theorem run_talks :
    (run flow).sat (anyAnswer loopbackAnswers) (fun τ _ => Talks flow τ)
      (fun _ τ _ => Talks flow τ) [] () := by
  simp only [run, generatePkcePair, generateState, sat_bind, perform, sat_op, sat_embed,
    List.nil_append]
  intro r _ hraw
  have hsilent : Talks flow [⟨.tokenBytes, r⟩] := .silent rfl
  refine ⟨hsilent, ?_⟩
  rcases r with e | raw
  · exact hsilent
  rw [andThen_ok]
  simp only [sat_bind, sat_embed]
  cases hkey : codeChallenge flow.library (b64urlNopad raw) with
  | error e => exact hsilent
  | ok challenge =>
      simp only [andThen_ok, sat_pure, sat_bind, sat_op, sat_embed]
      intro r _ hraw'
      have hsilent₁ := hsilent.concat (e := ⟨.tokenBytes, r⟩) rfl
      refine ⟨hsilent₁, ?_⟩
      rcases r with e | raw'
      · exact hsilent₁
      have hissued := issued_second raw hraw'
      simp only [andThen_ok, sat_pure, sat_bind, sat_raiseIf]
      refine ⟨fun _ => hsilent₁, fun _ => ?_⟩
      simp only [sat_op, sat_embed]
      intro r _ _
      have hsilent₂ := hsilent₁.concat (e := ⟨.listen, r⟩) rfl
      refine ⟨hsilent₂, ?_⟩
      rcases r with e | port
      · exact hsilent₂
      simp only [andThen_ok, sat_bind, sat_attempt]
      have hconsent : (consent flow { verifier := b64urlNopad raw, challenge } (b64urlNopad raw')
          port).sat (anyAnswer loopbackAnswers)
          (fun τ _ => Dialogue flow { verifier := b64urlNopad raw, challenge } (b64urlNopad raw')
            port (said τ))
          (fun _ τ _ => Dialogue flow { verifier := b64urlNopad raw, challenge } (b64urlNopad raw')
            port (said τ))
          ([⟨.tokenBytes, .ok raw⟩] ++ [⟨.tokenBytes, .ok raw'⟩] ++ [⟨.listen, .ok port⟩]) () :=
        consent_said rfl
      have htalks := sat_and hconsent (sat_extends (List.prefix_refl _))
      have hissuedAfter : ∀ τ, [⟨.tokenBytes, .ok raw⟩] ++ [⟨.tokenBytes, .ok raw'⟩] ++
          [⟨.listen, .ok port⟩] <+: τ → Issued τ (b64urlNopad raw') := by
        rintro _ ⟨τ', rfl⟩
        exact (hissued.append _).append τ'
      refine sat_weaken htalks (fun τ _ h => .talking hkey (hissuedAfter τ h.2) h.1)
        fun result τ _ h => ?_
      have hτ : Talks flow τ := .talking hkey (hissuedAfter τ h.2) h.1
      simp only [sat_bind, sat_op, sat_embed]
      rintro _ _ rfl
      refine ⟨hτ.concat rfl, ?_⟩
      rw [andThen_ok, sat_embed]
      exact hτ.concat rfl

end

/-! ### What the server makes of it -/

section
variable {pkce : PkcePair} {state : PyStr} {port : Int} {url : PyStr}

/-- The one scope there is. -/
theorem scope_of_validateScopes {L : LoopbackLibrary} {scopes : List PyStr}
    (h : validateScopes L scopes = .ok ()) :
    List.intercalate (str " ") (scopes.dedup.insertionSort (· ≤ ·)) =
      str "https://www.googleapis.com/auth/gmail.send" := by
  simp only [validateScopes, bind_eq_ok, rejectIf_eq_ok, exists_const, not_not] at h
  obtain ⟨hextra, hne⟩ := h
  have hall : ∀ scope ∈ scopes, scope = str "https://www.googleapis.com/auth/gmail.send" := by
    intro scope hscope
    have hallowed : scope ∈ v1AllowedScopes := by
      by_contra hnot
      have hmem : scope ∈ (scopes.filter (· ∉ v1AllowedScopes)).dedup :=
        List.mem_dedup.mpr (List.mem_filter.mpr ⟨hscope, by simpa using hnot⟩)
      rw [hextra] at hmem
      cases hmem
    exact List.mem_singleton.mp hallowed
  rw [List.eq_replicate_of_mem hall, List.replicate_dedup (mt List.length_eq_zero_iff.mp hne),
    List.insertionSort_cons]
  rfl

/-- The server grants what the flow asks for. -/
theorem granted_of_url (hurl : authorizationUrl flow pkce state port = .ok url) :
    ∃ query, url = flow.authEndpoint ++ str "?" ++ query ∧
      CodeGrant.ofQuery query = some
        { clientId := flow.clientId, redirectUri := redirectUri flow port
          codeChallenge := pkce.challenge
          scope := str "https://www.googleapis.com/auth/gmail.send", state } := by
  simp only [authorizationUrl, OAuth.AuthorizationRequest.checked, bind_eq_ok, pure, Except.pure,
    Except.ok.injEq] at hurl
  obtain ⟨request, ⟨_, -, _, hscopes, rfl⟩, hbuild⟩ := hurl
  have hscope := scope_of_validateScopes hscopes
  simp only [buildAuthorizationUrl, hscope] at hbuild
  split at hbuild
  · rename_i query hquery
    obtain rfl := Except.ok.inj hbuild
    have hkeys : [str "client_id", str "redirect_uri", str "response_type", str "scope",
        str "state", str "code_challenge", str "code_challenge_method", str "access_type",
        str "prompt"].Nodup := by decide +kernel
    have hread := getStr_parseQsl hquery hkeys
    refine ⟨query, rfl, ?_⟩
    simp only [CodeGrant.ofQuery, hread]
    rfl
  · cases hbuild

theorem s256_of_codeChallenge {L : LoopbackLibrary} {verifier challenge : PyStr}
    (h : codeChallenge L verifier = .ok challenge) :
    (encodeUtf8 verifier).map (b64urlNopad ∘ L.sha256) = some challenge := by
  simp only [codeChallenge, bind_eq_ok] at h
  obtain ⟨_, -, h⟩ := h
  cases hdata : encodeUtf8 verifier with
  | none =>
      rw [hdata] at h
      cases h
  | some data =>
      rw [hdata] at h
      obtain rfl := Except.ok.inj h
      rfl

/-- The form of an exchange is read back. -/
theorem getStr_exchangeBody {code verifier uri : PyStr} {request : TokenExchangeRequest}
    {body : Bytes}
    (hrequest : buildTokenExchangeRequest flow.library code verifier flow.clientId uri
      flow.clientSecret flow.tokenEndpoint = .ok request)
    (hbody : formBody request.body = .ok body) (key : String) :
    request.endpoint = flow.tokenEndpoint ∧
      CallbackParams.getStr (parseQsl (decodeUtf8Replace body)) key =
        CallbackParams.getStr ([(str "grant_type", str "authorization_code"), (str "code", code),
          (str "redirect_uri", uri), (str "client_id", flow.clientId),
          (str "code_verifier", verifier)] ++
          (flow.clientSecret.map fun secret => (str "client_secret", secret)).toList) key := by
  simp only [buildTokenExchangeRequest, bind_eq_ok, pure, Except.pure, Except.ok.injEq] at hrequest
  obtain ⟨-, -, -, -, -, -, rfl⟩ := hrequest
  refine ⟨rfl, getStr_parseQsl (decode_formBody hbody) ?_ key⟩
  cases flow.clientSecret with
  | none =>
      change [str "grant_type", str "code", str "redirect_uri", str "client_id",
        str "code_verifier"].Nodup
      decide +kernel
  | some secret =>
      change [str "grant_type", str "code", str "redirect_uri", str "client_id",
        str "code_verifier", str "client_secret"].Nodup
      decide +kernel

/-- The server redeems a code for what was granted. -/
theorem redeems_of_request {code : PyStr} {request : TokenExchangeRequest} {body : Bytes}
    (hkey : codeChallenge flow.library pkce.verifier = .ok pkce.challenge)
    (hrequest : buildTokenExchangeRequest flow.library code pkce.verifier flow.clientId
      (redirectUri flow port) flow.clientSecret flow.tokenEndpoint = .ok request)
    (hbody : formBody request.body = .ok body) (scope : PyStr) :
    CodeGrant.Redeems flow.library.sha256
      { clientId := flow.clientId, redirectUri := redirectUri flow port
        codeChallenge := pkce.challenge, scope, state } body := by
  have hread := fun key => (getStr_exchangeBody hrequest hbody key).2
  constructor
  · rw [hread]
    rfl
  · rw [hread]
    rfl
  · rw [hread]
    rfl
  · rw [hread]
    exact s256_of_codeChallenge hkey

/-- The code that it is asked to redeem. -/
theorem code_of_exchanges {code endpoint : PyStr} {headers : List (PyStr × PyStr)} {body : Bytes}
    (h : flow.Exchanges code (endpoint, headers, body)) :
    CallbackParams.getStr (parseQsl (decodeUtf8Replace body)) "code" = code := by
  obtain ⟨verifier, uri, request, body', hrequest, hbody, heq⟩ := h
  obtain ⟨-, -, rfl⟩ : endpoint = request.endpoint ∧ headers = formHeaders ∧ body = body' := by
    simpa using heq
  rw [(getStr_exchangeBody hrequest hbody "code").2]
  rfl

end

section
variable {requests : List Request}
  {c : Config LoopbackSig Exc (Option ReceivedTokens) LoopbackState}

/-- Only the flow speaks to the server. -/
theorem said_history (hrun : Run loopbackEnv anyStep (flow.start requests) c) :
    said (c.history.map Prod.snd) = said (eventsOf 0 c.history) := by
  rw [said, said, ← filter_eventsOf]
  intro x hx hsaid
  have hthread := (hrun.performs (start_performs flow requests) rfl).1 x hx
  obtain ⟨t, o, r⟩ := x
  match t with
  | 0 => rfl
  | 1 =>
      cases o with
      | openBrowser => exact absurd hthread id
      | post => exact absurd hthread id
      | _ => cases hsaid
  | t + 2 => exact absurd hthread id

theorem flow_talks (hrun : Run loopbackEnv anyStep (flow.start requests) c) :
    Talks flow (eventsOf 0 c.history) := by
  have hspec : ∀ t, ((flow.start requests).threads t).sat (anyAnswer loopbackAnswers)
      (fun τ _ => t = 0 → Talks flow τ) (fun _ τ _ => t = 0 → Talks flow τ) [] () := by
    intro t
    by_cases ht : t = 0
    · subst ht
      change (some <$> run flow).sat _ _ _ [] ()
      rw [map_eq_pure_bind, sat_bind]
      refine sat_weaken run_talks (fun τ _ h _ => h) fun r τ _ h => ?_
      cases r <;> exact fun _ => h
    · exact sat_weaken (sat_extends (List.prefix_refl _)) (fun _ _ _ h => absurd h ht)
        fun _ _ _ _ h => absurd h ht
  exact (hrun.localEvents loopbackEnv_answers (J := fun t τ => t = 0 → Talks flow τ)
    (fun t _ => .silent rfl) rfl hspec 0).1 rfl

theorem mem_posts_of_said {τ : List LoopbackEvent} {url : PyStr} {headers : List (PyStr × PyStr)}
    {body : Bytes} (h : .post url headers body ∈ said τ) : (url, headers, body) ∈ posts τ := by
  obtain ⟨⟨o, r⟩, he, ho⟩ := List.mem_map.mp h
  obtain rfl : o = .post url headers body := ho
  exact List.mem_filterMap.mpr ⟨_, List.mem_of_mem_filter he, rfl⟩

/-- The code that is redeemed came back with the issued state. -/
theorem redeemed_genuine (hrun : Run loopbackEnv anyStep (flow.start requests) c)
    {state url : PyStr} {headers : List (PyStr × PyStr)} {body : Bytes}
    (hissued : issuedState (eventsOf 0 c.history) = some state)
    (h : .post url headers body ∈ said (eventsOf 0 c.history)) :
    ∃ query, flow.Sent requests query ∧ GenuineQuery state
      (CallbackParams.getStr (parseQsl (decodeUtf8Replace body)) "code") query := by
  have hpost := mem_posts_of_said h
  cases (flow_events hrun).1 with
  | silent hnone =>
      rw [hnone] at hpost
      cases hpost
  | exchanging hissued' hreads hcode hposts =>
      obtain ⟨query, hsent, -, hgenuine⟩ := genuine_of_reads hrun hissued' hreads hcode
      obtain rfl := Option.some.inj (hissued.symm.trans hissued'.eq)
      exact ⟨query, hsent, code_of_exchanges (hposts _ hpost) ▸ hgenuine⟩

end

/-- **The flow proves its key to the server**, in every run: it says nothing, or it asks once for
the scope of sending mail, with the issued state; and what it then redeems, at most once, is the
code of a genuine callback, redeemed for exactly what the server noted when it was asked. -/
theorem run_redeemed (flow : LoopbackOAuthFlow) (requests : List Request)
    {c : Config LoopbackSig Exc (Option ReceivedTokens) LoopbackState}
    (hrun : Run loopbackEnv anyStep (flow.start requests) c) :
    said (c.history.map Prod.snd) = [] ∨ ∃ query grant, CodeGrant.ofQuery query = some grant ∧
      grant.scope = str "https://www.googleapis.com/auth/gmail.send" ∧
      issuedState (eventsOf 0 c.history) = some grant.state ∧
      (said (c.history.map Prod.snd) = [.openBrowser (flow.authEndpoint ++ str "?" ++ query)] ∨
        ∃ body callback, grant.Redeems flow.library.sha256 body ∧ flow.Sent requests callback ∧
          GenuineQuery grant.state
            (CallbackParams.getStr (parseQsl (decodeUtf8Replace body)) "code") callback ∧
          said (c.history.map Prod.snd) =
            [.openBrowser (flow.authEndpoint ++ str "?" ++ query),
              .post flow.tokenEndpoint formHeaders body]) := by
  rw [said_history hrun]
  cases flow_talks hrun with
  | silent h => exact .inl h
  | @talking pkce state port hkey hissued hsaid =>
      generalize hspoken : said (eventsOf 0 c.history) = spoken at hsaid
      cases hsaid with
      | silent => exact .inl rfl
      | asked hurl =>
          obtain ⟨query, rfl, hgrant⟩ := granted_of_url hurl
          exact .inr ⟨query, _, hgrant, rfl, hissued.eq, .inl rfl⟩
      | @redeemed url code request body hurl hrequest hbody =>
          obtain ⟨query, rfl, hgrant⟩ := granted_of_url hurl
          obtain ⟨callback, hsent, hgenuine⟩ := redeemed_genuine hrun hissued.eq
            (hspoken ▸ List.mem_cons_of_mem _ List.mem_cons_self)
          rw [(getStr_exchangeBody hrequest hbody "code").1]
          exact .inr ⟨query, _, hgrant, rfl, hissued.eq,
            .inr ⟨body, callback, redeems_of_request hkey hrequest hbody _, hsent, hgenuine, rfl⟩⟩

/-- It does both on a callback. -/
theorem run_redeemed_sample : ∃ query grant body callback, CodeGrant.ofQuery query = some grant ∧
    grant.Redeems sampleLoopback.sha256 body ∧ GenuineQuery grant.state
      (CallbackParams.getStr (parseQsl (decodeUtf8Replace body)) "code") callback ∧
    said ((calledBack genuineQuery).history.map Prod.snd) =
      [.openBrowser (defaultAuthEndpoint ++ str "?" ++ query),
        .post defaultTokenEndpoint formHeaders body] := by
  have hlength : (said ((calledBack genuineQuery).history.map Prod.snd)).length = 2 := by
    decide +kernel
  rcases run_redeemed sampleFlow _ (calledBack_run genuineQuery) with h | h
  · rw [h] at hlength
    cases hlength
  · obtain ⟨query, grant, hgrant, -, -, h | h⟩ := h
    · rw [h] at hlength
      cases hlength
    · obtain ⟨body, callback, hredeems, -, hgenuine, hsaid⟩ := h
      exact ⟨query, grant, body, callback, hgrant, hredeems, hgenuine, hsaid⟩

end LoopbackOAuthFlow

end GmailGateway
