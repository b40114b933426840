import GmailGateway.Effect.Guards
import GmailGateway.Gateway.OAuthCallback
import GmailGateway.Python.Dumps

/-!
# GmailGateway.Gateway.OAuthListener

**Only a genuine callback reaches the token exchange.** Every exchange is for the code of a `GET`
for the callback path that was among the requests, whose first state is the issued one and which
carries no error: the invariant is that what is captured are the first values of such a request,
and the flow reads it once.

Any other callback makes the flow raise an `OAuthError`, provided the state it brings is ASCII:
`secrets.compare_digest` raises a `TypeError` on everything else, which nothing between it and the
caller of `run` turns into a mismatch.
-/

namespace GmailGateway

open Effect Proc Python

/-! ### The issued state -/

theorem isAscii_b64urlNopad (raw : Bytes) : isAscii (b64urlNopad raw) = true := by
  have hall := List.all_eq_true.mp (Base64.isAscii_b64encode raw)
  refine List.all_eq_true.mpr fun c hc => ?_
  obtain ⟨d, hd, rfl⟩ := List.mem_map.mp ((List.rdropWhile_prefix _ _).subset hc)
  split
  · decide
  split
  · decide
  · exact hall d hd

theorem b64urlNopad_ne_nil {raw : Bytes} (h : raw ≠ []) : b64urlNopad raw ≠ [] := by
  obtain ⟨v, hv, hhead⟩ := Base64.b64encode_head h
  obtain ⟨rest, hrest⟩ : ∃ rest, Base64.b64encode raw = Base64.letter v :: rest :=
    List.head?_eq_some_iff.mp hhead
  have hpad : ∀ v < 64, (if Base64.letter v = CodePoint.ofChar '+' then CodePoint.ofChar '-'
      else if Base64.letter v = CodePoint.ofChar '/' then CodePoint.ofChar '_'
      else Base64.letter v) ≠ Base64.pad := by decide
  intro hnil
  have hall := List.rdropWhile_eq_nil_iff.mp hnil
  refine hpad v hv (of_decide_eq_true (hall _ ?_))
  rw [Base64.urlsafeB64encode, hrest, List.map_cons]
  exact List.mem_cons_self

/-! ### Validating a callback -/

section
variable {state code : PyStr} {params : CallbackParams}

theorem stateMatches_eq_true {expected received : PyStr} (hexpected : isAscii expected = true) :
    stateMatches expected received = .ok true ↔ expected ≠ [] ∧ received = expected := by
  unfold stateMatches
  split
  · rename_i hempty
    constructor
    · intro h
      cases h
    · intro h
      obtain ⟨hne, rfl⟩ := h
      rcases hempty with hnil | hnil <;> exact absurd hnil hne
  · rename_i hne
    obtain ⟨hne, -⟩ := not_or.mp hne
    cases hcompare : compareDigest expected received with
    | none =>
        refine ⟨fun h => (by cases h), fun h => ?_⟩
        rw [h.2, compareDigest_of_isAscii hexpected hexpected] at hcompare
        cases hcompare
    | some same =>
        constructor
        · intro h
          obtain rfl : same = true := Except.ok.inj h
          exact ⟨hne, (compareDigest_eq_true.mp hcompare).2.symm⟩
        · intro h
          rw [h.2, compareDigest_of_isAscii hexpected hexpected, beq_self_eq_true] at hcompare
          cases hcompare
          rfl

/-- It raises on a state that is not ASCII, and on no other. -/
theorem stateMatches_eq_error {expected received : PyStr} (hexpected : isAscii expected = true)
    (hne : expected ≠ []) {e : Exc} :
    stateMatches expected received = .error e ↔ isAscii received = false ∧ e = .typeError := by
  unfold stateMatches
  split
  · rename_i hempty
    obtain rfl : received = [] := hempty.resolve_left hne
    refine ⟨fun h => (by cases h), fun h => (by simp [isAscii] at h)⟩
  · cases hcompare : compareDigest expected received with
    | none =>
        have hreceived := (compareDigest_eq_none.mp hcompare).resolve_left (by simp [hexpected])
        refine ⟨fun h => ⟨hreceived, ?_⟩, fun h => by rw [h.2]; rfl⟩
        cases h
        rfl
    | some same =>
        refine ⟨fun h => (by cases h), fun h => ?_⟩
        rw [compareDigest_eq_none.mpr (.inr h.1)] at hcompare
        cases hcompare

/-- The parameters that `extractAuthorizationCode` takes a code from. -/
theorem extractAuthorizationCode_eq_ok (hstate : isAscii state = true) :
    extractAuthorizationCode params state = .ok code ↔
      state ≠ [] ∧ params.getStr "state" = state ∧ params.getStr "error" = [] ∧
        params.getStr "code" = code ∧ code ≠ [] := by
  simp only [extractAuthorizationCode, bind_eq_ok, rejectIf_eq_ok, exists_const, not_not,
    Bool.not_eq_false, ne_eq, pure, Except.pure, Except.ok.injEq]
  constructor
  · intro h
    obtain ⟨same, hmatch, hsame, herror, hcode, rfl⟩ := h
    rw [hsame] at hmatch
    obtain ⟨hne, heq⟩ := (stateMatches_eq_true hstate).mp hmatch
    exact ⟨hne, heq, herror, rfl, hcode⟩
  · intro h
    obtain ⟨hne, heq, herror, rfl, hcode⟩ := h
    exact ⟨true, (stateMatches_eq_true hstate).mpr ⟨hne, heq⟩, rfl, herror, hcode, rfl⟩

/-- A refusal is an `OAuthError`, unless the state is not ASCII. -/
theorem extractAuthorizationCode_error (hstate : isAscii state = true) (hne : state ≠ []) {e : Exc}
    (h : extractAuthorizationCode params state = .error e) :
    (∃ errorClass message, e = .oauth errorClass message) ↔
      isAscii (params.getStr "state") = true := by
  simp only [extractAuthorizationCode, bind_eq_error, rejectIf_eq_error, rejectIf_eq_ok,
    exists_const, pure, Except.pure, reduceCtorEq, or_false, and_false] at h
  rcases h with h | h
  · obtain ⟨hascii, rfl⟩ := (stateMatches_eq_error hstate hne).mp h
    simp [hascii]
  · obtain ⟨same, hmatch, hrest⟩ := h
    have hascii : isAscii (params.getStr "state") = true := by
      by_contra hnot
      rw [(stateMatches_eq_error hstate hne).mpr ⟨by simpa using hnot, rfl⟩] at hmatch
      cases hmatch
    simp only [hascii, iff_true]
    rcases hrest with hmismatch | ⟨-, hprovider | ⟨-, hmissing⟩⟩
    · exact ⟨_, _, hmismatch.2.symm⟩
    · exact ⟨_, _, hprovider.2.symm⟩
    · exact ⟨_, _, hmissing.2.symm⟩

end

/-- A query that a code may be taken from: its first state is the issued one, it has a code, and
it carries no error. -/
structure GenuineQuery (state code query : PyStr) : Prop where
  state_eq : (parseQsl query).lookup (str "state") = some state
  no_error : ∀ field ∈ parseQsl query, field.1 ≠ str "error"
  code_eq : (parseQsl query).lookup (str "code") = some code
  code_ne : code ≠ []

/-- What the handler captures of a query. -/
abbrev capturedOf (query : PyStr) : CallbackParams := firstValues (parseQsl query)

theorem lookup_ne_nil {query value : PyStr} {key : String}
    (h : (parseQsl query).lookup (str key) = some value) : value ≠ [] := by
  obtain ⟨before, after, hfields, -⟩ := List.lookup_eq_some_iff.mp h
  have hmem : (str key, value) ∈ parseQsl query := by
    rw [hfields]
    exact List.mem_append_right _ List.mem_cons_self
  exact parseQsl_ne_nil hmem

theorem getStr_capturedOf (query : PyStr) (key : String) :
    (capturedOf query).getStr key = ((parseQsl query).lookup (str key)).getD [] := by
  rw [CallbackParams.getStr, lookup_firstValues]

/-- A value is read as empty where there is none. -/
theorem getStr_capturedOf_eq {query value : PyStr} {key : String} (hvalue : value ≠ []) :
    (capturedOf query).getStr key = value ↔ (parseQsl query).lookup (str key) = some value := by
  rw [getStr_capturedOf]
  cases (parseQsl query).lookup (str key) with
  | none => simpa using hvalue.symm
  | some v => simp

theorem getStr_capturedOf_eq_nil {query : PyStr} {key : String} :
    (capturedOf query).getStr key = [] ↔ ∀ field ∈ parseQsl query, field.1 ≠ str key := by
  have hnone : (∀ field ∈ parseQsl query, field.1 ≠ str key) ↔
      (parseQsl query).lookup (str key) = none := by
    rw [List.lookup_eq_none_iff]
    refine forall₂_congr fun field _ => ?_
    rw [bne_iff_ne, ne_comm]
  rw [hnone, getStr_capturedOf]
  cases hlookup : (parseQsl query).lookup (str key) with
  | none => simp
  | some v => simpa using lookup_ne_nil hlookup

/-- A code is taken from a genuine query, and from no other. -/
theorem extract_capturedOf {state code query : PyStr} (hstate : isAscii state = true) :
    extractAuthorizationCode (capturedOf query) state = .ok code ↔
      GenuineQuery state code query := by
  rw [extractAuthorizationCode_eq_ok hstate, getStr_capturedOf_eq_nil]
  constructor
  · intro h
    obtain ⟨hne, heq, herror, hcode, hcode_ne⟩ := h
    exact ⟨(getStr_capturedOf_eq hne).mp heq, herror, (getStr_capturedOf_eq hcode_ne).mp hcode,
      hcode_ne⟩
  · intro h
    have hne := lookup_ne_nil h.state_eq
    exact ⟨hne, (getStr_capturedOf_eq hne).mpr h.state_eq, h.no_error,
      (getStr_capturedOf_eq h.code_ne).mpr h.code_eq, h.code_ne⟩

namespace LoopbackOAuthFlow

/-! ### What is observed of the flow -/

/-- The answers of the wait. -/
def waits (τ : List LoopbackEvent) : List Bool :=
  τ.filterMap fun
    | ⟨.waitDone, .ok arrived⟩ => some arrived
    | _ => none

/-- The parameters the flow was given to validate. -/
def reads (τ : List LoopbackEvent) : List CallbackParams :=
  τ.filterMap fun
    | ⟨.readCaptured, .ok captured⟩ => some (captured.getD [])
    | _ => none

/-- The requests to the token endpoint, with what they were sent in. -/
def posts (τ : List LoopbackEvent) : List (PyStr × List (PyStr × PyStr) × Bytes) :=
  τ.filterMap fun
    | ⟨.post url headers body, _⟩ => some (url, headers, body)
    | _ => none

/-- The random bytes, of the verifier and of the state. -/
def seeds (τ : List LoopbackEvent) : List Bytes :=
  τ.filterMap fun
    | ⟨.tokenBytes, .ok raw⟩ => some raw
    | _ => none

/-- The state the flow has issued. -/
def issuedState (τ : List LoopbackEvent) : Option PyStr := (seeds τ)[1]?.map b64urlNopad

/-- `post` exchanges `code`. -/
def Exchanges (flow : LoopbackOAuthFlow) (code : PyStr)
    (post : PyStr × List (PyStr × PyStr) × Bytes) : Prop :=
  ∃ verifier uri request body,
    buildTokenExchangeRequest flow.library code verifier flow.clientId uri flow.clientSecret
      flow.tokenEndpoint = .ok request ∧
    formBody request.body = .ok body ∧ post = (request.endpoint, formHeaders, body)

/-! ### The flow alone -/

/-- What the flow relies on, whatever the listener does. -/
def loopbackAnswers : (o : LoopbackOp) → Except Exc o.Ret → Prop
  | .tokenBytes, .ok raw => raw.length = 32
  | .waitDone, r => ∃ arrived, r = .ok arrived
  | .readCaptured, r => ∃ captured, r = .ok captured
  | .shutdown, r => r = .ok ()
  | _, _ => True

variable {flow : LoopbackOAuthFlow}

theorem loopbackEnv_answers (s : LoopbackState) (o : LoopbackOp) (r : Except Exc o.Ret)
    (s' : LoopbackState) (h : loopbackEnv s o r s') : loopbackAnswers o r := by
  cases o with
  | tokenBytes =>
      cases r with
      | error e => trivial
      | ok raw => exact h.1
  | waitDone => exact ⟨_, h.1⟩
  | readCaptured => exact ⟨_, h.1⟩
  | shutdown => exact h.1
  | _ => trivial

/-- What an exchange of `code` may perform. -/
def ExchangeOp (flow : LoopbackOAuthFlow) (code : PyStr) : LoopbackOp → Prop
  | .post url headers body => flow.Exchanges code (url, headers, body)
  | .now => True
  | _ => False

/-- An exchange posts for its code, and does nothing else that counts. -/
theorem exchange_performs (flow : LoopbackOAuthFlow) (code verifier uri : PyStr) :
    (exchange flow code verifier uri).Performs (flow.ExchangeOp code) := by
  unfold exchange
  refine performs_embed_bind fun request hrequest => ?_
  refine performs_embed_bind fun body hbody => ?_
  have hexchanges : flow.Exchanges code (request.endpoint, formHeaders, body) :=
    ⟨verifier, uri, request, body, hrequest, hbody, rfl⟩
  refine performs_bind ?_ fun resp => performs_bind (performs_embed _) fun parsed =>
    performs_bind (performs_perform trivial) fun receivedAt => performs_pure _
  have hrequest : (flow.egress.request flow.library.mail request.endpoint formHeaders body).Performs
      (fun o : TransportOp => o = .post request.endpoint formHeaders body) :=
    performs_bind (performs_embed _) fun host =>
      performs_bind (performs_perform rfl) fun answer => performs_pure _
  refine performs_implement hrequest fun o ho => ?_
  subst ho
  exact performs_perform hexchanges

section
variable {τ τ' : List LoopbackEvent} {state code : PyStr}

@[simp] theorem waits_append : waits (τ ++ τ') = waits τ ++ waits τ' := List.filterMap_append

@[simp] theorem reads_append : reads (τ ++ τ') = reads τ ++ reads τ' := List.filterMap_append

@[simp] theorem posts_append : posts (τ ++ τ') = posts τ ++ posts τ' := List.filterMap_append

@[simp] theorem seeds_append : seeds (τ ++ τ') = seeds τ ++ seeds τ' := List.filterMap_append

/-- The state is issued: text that can be compared. -/
structure Issued (τ : List LoopbackEvent) (state : PyStr) : Prop where
  eq : issuedState τ = some state
  ascii : isAscii state = true
  ne_nil : state ≠ []

/-- What is done later does not issue another one. -/
theorem Issued.append (h : Issued τ state) (τ' : List LoopbackEvent) : Issued (τ ++ τ') state := by
  refine ⟨?_, h.ascii, h.ne_nil⟩
  obtain ⟨raw, hraw, hstate⟩ := Option.map_eq_some_iff.mp h.eq
  obtain ⟨hlt, -⟩ := List.getElem?_eq_some_iff.mp hraw
  rw [issuedState, seeds_append, List.getElem?_append_left hlt, hraw, Option.map_some, hstate]

/-- The flow has not waited yet. -/
structure Quiet (τ : List LoopbackEvent) : Prop where
  waits_eq : waits τ = []
  reads_eq : reads τ = []
  posts_eq : posts τ = []

theorem Quiet.append (h : Quiet τ) (h' : Quiet τ') : Quiet (τ ++ τ') := by
  constructor
  · rw [waits_append, h.waits_eq, h'.waits_eq]; rfl
  · rw [reads_append, h.reads_eq, h'.reads_eq]; rfl
  · rw [posts_append, h.posts_eq, h'.posts_eq]; rfl

/-- The operations around the wait. -/
def IsSetUp : LoopbackOp → Prop
  | .waitDone | .readCaptured | .post _ _ _ => False
  | _ => True

theorem quiet_singleton {e : LoopbackEvent} (h : IsSetUp e.op) : Quiet [e] := by
  obtain ⟨o, r⟩ := e
  cases o with
  | waitDone => exact absurd h id
  | readCaptured => exact absurd h id
  | post url headers body => exact absurd h id
  | _ => exact ⟨rfl, rfl, rfl⟩

/-- The events of an exchange. -/
theorem exchange_events (h : ∀ e ∈ τ, flow.ExchangeOp code e.op) :
    waits τ = [] ∧ reads τ = [] ∧ ∀ post ∈ posts τ, flow.Exchanges code post := by
  refine ⟨List.filterMap_eq_nil_iff.mpr fun e he => ?_, List.filterMap_eq_nil_iff.mpr fun e he => ?_,
    fun post hpost => ?_⟩
  · have hop := h e he
    obtain ⟨o, r⟩ := e
    cases o with
    | waitDone => exact absurd hop id
    | _ => rfl
  · have hop := h e he
    obtain ⟨o, r⟩ := e
    cases o with
    | readCaptured => exact absurd hop id
    | _ => rfl
  · obtain ⟨e, he, hpost⟩ := List.mem_filterMap.mp hpost
    have hop := h e he
    obtain ⟨o, r⟩ := e
    cases o with
    | post url headers body =>
        cases hpost
        exact hop
    | _ => cases hpost

/-- **At any point** nothing was posted, or only for the code of the parameters that were read. -/
inductive Underway (flow : LoopbackOAuthFlow) (τ : List LoopbackEvent) : Prop
  | silent (h : posts τ = [])
  | exchanging {state code : PyStr} {params : CallbackParams} (hissued : Issued τ state)
      (hreads : reads τ = [params]) (hcode : extractAuthorizationCode params state = .ok code)
      (hposts : ∀ post ∈ posts τ, flow.Exchanges code post)

/-- **At its end** the flow never waited, was not called back in time, refused the parameters
that it read, or took a code from them. -/
inductive Finished (flow : LoopbackOAuthFlow) (τ : List LoopbackEvent) :
    Except Exc ReceivedTokens → Prop
  | unstarted {r} (h : waits τ = []) : Finished flow τ r
  | timedOut (hreads : reads τ = []) (hposts : posts τ = []) :
      Finished flow τ
        (.error (.oauth .timeout (str "no OAuth callback within " ++ flow.timeout ++ str "s")))
  | refused {state : PyStr} {params : CallbackParams} {e : Exc} (hissued : Issued τ state)
      (hreads : reads τ = [params]) (hrefused : extractAuthorizationCode params state = .error e)
      (hposts : posts τ = []) : Finished flow τ (.error e)
  | exchanged {state code : PyStr} {params : CallbackParams} {r} (hissued : Issued τ state)
      (hreads : reads τ = [params])
      (hcode : extractAuthorizationCode params state = .ok code) : Finished flow τ r

theorem Finished.append {r : Except Exc ReceivedTokens} (h : Finished flow τ r)
    (hquiet : Quiet τ') : Finished flow (τ ++ τ') r := by
  cases h with
  | unstarted h => exact .unstarted (by rw [waits_append, h, hquiet.waits_eq]; rfl)
  | timedOut hreads hposts =>
      exact .timedOut (by rw [reads_append, hreads, hquiet.reads_eq]; rfl)
        (by rw [posts_append, hposts, hquiet.posts_eq]; rfl)
  | refused hissued hreads hrefused hposts =>
      exact .refused (hissued.append τ') (by rw [reads_append, hreads, hquiet.reads_eq]; rfl)
        hrefused (by rw [posts_append, hposts, hquiet.posts_eq]; rfl)
  | exchanged hissued hreads hcode =>
      exact .exchanged (hissued.append τ') (by rw [reads_append, hreads, hquiet.reads_eq]; rfl)
        hcode

theorem Underway.append (h : Underway flow τ) (hquiet : Quiet τ') : Underway flow (τ ++ τ') := by
  cases h with
  | silent h => exact .silent (by rw [posts_append, h, hquiet.posts_eq]; rfl)
  | exchanging hissued hreads hcode hposts =>
      refine .exchanging (hissued.append τ') (by rw [reads_append, hreads, hquiet.reads_eq]; rfl)
        hcode ?_
      rw [posts_append, hquiet.posts_eq, List.append_nil]
      exact hposts

/-- From the wait on. -/
theorem awaitCallback_finishes (pkce : PkcePair) (port : Int) (hquiet : Quiet τ)
    (hissued : Issued τ state) :
    (awaitCallback flow pkce state port).sat (anyAnswer loopbackAnswers)
      (fun τ _ => Underway flow τ) (fun r τ _ => Underway flow τ ∧ Finished flow τ r) τ () := by
  simp only [awaitCallback, sat_bind, perform, sat_op, sat_embed]
  rintro _ _ ⟨arrived, rfl⟩
  have hposts : posts (τ ++ [⟨.waitDone, .ok arrived⟩]) = [] := by
    rw [posts_append, hquiet.posts_eq]
    rfl
  have hreads : reads (τ ++ [⟨.waitDone, .ok arrived⟩]) = [] := by
    rw [reads_append, hquiet.reads_eq]
    rfl
  refine ⟨.silent hposts, ?_⟩
  rw [andThen_ok]
  simp only [sat_bind, sat_raiseIf]
  refine ⟨fun harrived => ⟨.silent hposts, .timedOut hreads hposts⟩, fun harrived => ?_⟩
  rw [andThen_ok]
  simp only [sat_bind, sat_op, sat_embed]
  rintro _ _ ⟨captured, rfl⟩
  generalize hτ₁ : τ ++ [⟨.waitDone, .ok arrived⟩] ++ [⟨.readCaptured, .ok captured⟩] = τ₁
  have hissued₁ : Issued τ₁ state := hτ₁ ▸ (hissued.append _).append _
  have hreads₁ : reads τ₁ = [captured.getD []] := by
    rw [← hτ₁, reads_append, hreads]
    rfl
  have hposts₁ : posts τ₁ = [] := by
    rw [← hτ₁, posts_append, hposts]
    rfl
  refine ⟨.silent hposts₁, ?_⟩
  rw [andThen_ok]
  simp only [sat_bind, sat_embed]
  cases hcode : extractAuthorizationCode (captured.getD []) state with
  | error e => exact ⟨.silent hposts₁, .refused hissued₁ hreads₁ hcode hposts₁⟩
  | ok code =>
      rw [andThen_ok]
      have hnone : ∀ e ∈ ([] : List LoopbackEvent), flow.ExchangeOp code e.op :=
        fun e he => absurd he List.not_mem_nil
      have hexchange := sat_performs (W := anyAnswer loopbackAnswers) (τ := τ₁) (s := ())
        (exchange_performs flow code pkce.verifier (redirectUri flow port)) hnone
      rw [List.append_nil] at hexchange
      have hwithin : ∀ τ₂ : List LoopbackEvent, (∀ e ∈ τ₂, flow.ExchangeOp code e.op) →
          reads (τ₁ ++ τ₂) = [captured.getD []] ∧
            ∀ post ∈ posts (τ₁ ++ τ₂), flow.Exchanges code post := by
        intro τ₂ hτ₂
        obtain ⟨-, hreads₂, hposts₂⟩ := exchange_events hτ₂
        rw [reads_append, posts_append, hreads₁, hreads₂, hposts₁]
        exact ⟨rfl, hposts₂⟩
      refine sat_weaken hexchange (fun τ' _ h => ?_) fun r τ' _ h => ?_
      · obtain ⟨τ₂, rfl, hτ₂⟩ := h
        exact .exchanging (hissued₁.append τ₂) (hwithin τ₂ hτ₂).1 hcode (hwithin τ₂ hτ₂).2
      · obtain ⟨τ₂, rfl, hτ₂⟩ := h
        exact ⟨.exchanging (hissued₁.append τ₂) (hwithin τ₂ hτ₂).1 hcode (hwithin τ₂ hτ₂).2,
          .exchanged (hissued₁.append τ₂) (hwithin τ₂ hτ₂).1 hcode⟩

theorem Quiet.underway (h : Quiet τ) : Underway flow τ := .silent h.posts_eq

theorem Quiet.finished (h : Quiet τ) (r : Except Exc ReceivedTokens) : Finished flow τ r :=
  .unstarted h.waits_eq

/-- What the `try` guards. -/
theorem consent_finishes (pkce : PkcePair) (port : Int) (hquiet : Quiet τ)
    (hissued : Issued τ state) :
    (consent flow pkce state port).sat (anyAnswer loopbackAnswers)
      (fun τ _ => Underway flow τ) (fun r τ _ => Underway flow τ ∧ Finished flow τ r) τ () := by
  have hbrowser : ∀ τ, Quiet τ → Issued τ state →
      (do
        let authUrl ← embed (authorizationUrl flow pkce state port)
        perform (S := LoopbackSig) (.openBrowser authUrl)
        awaitCallback flow pkce state port).sat (anyAnswer loopbackAnswers)
        (fun τ _ => Underway flow τ) (fun r τ _ => Underway flow τ ∧ Finished flow τ r) τ () := by
    intro τ hquiet hissued
    simp only [sat_bind, sat_embed]
    cases authorizationUrl flow pkce state port with
    | error e => exact ⟨hquiet.underway, hquiet.finished _⟩
    | ok authUrl =>
        simp only [andThen_ok, sat_bind, perform, sat_op, sat_embed]
        intro r _ _
        have hquiet' := hquiet.append (quiet_singleton (e := ⟨.openBrowser authUrl, r⟩) trivial)
        refine ⟨hquiet'.underway, ?_⟩
        cases r with
        | error e => exact ⟨hquiet'.underway, hquiet'.finished _⟩
        | ok _ =>
            exact awaitCallback_finishes pkce port hquiet' (hissued.append _)
  unfold consent
  split
  · simp only [sat_bind, perform, sat_op, sat_embed]
    intro r _ _
    have hquiet' := hquiet.append
      (quiet_singleton (e := ⟨.onRedirectUri (redirectUri flow port), r⟩) trivial)
    refine ⟨hquiet'.underway, ?_⟩
    cases r with
    | error e => exact ⟨hquiet'.underway, hquiet'.finished _⟩
    | ok _ => exact hbrowser _ hquiet' (hissued.append _)
  · exact hbrowser τ hquiet hissued

theorem issued_second (raw : Bytes) {raw' : Bytes} (hraw' : raw'.length = 32) :
    Issued ([⟨.tokenBytes, .ok raw⟩] ++ [⟨.tokenBytes, .ok raw'⟩]) (b64urlNopad raw') := by
  refine ⟨rfl, isAscii_b64urlNopad raw', b64urlNopad_ne_nil fun hnil => ?_⟩
  rw [hnil] at hraw'
  cases hraw'

theorem run_finishes :
    (run flow).sat (anyAnswer loopbackAnswers) (fun τ _ => Underway flow τ)
      (fun r τ _ => Finished flow τ r) [] () := by
  simp only [run, generatePkcePair, generateState, sat_bind, perform, sat_op, sat_embed,
    List.nil_append]
  intro r _ hraw
  have hquiet : Quiet [⟨.tokenBytes, r⟩] := quiet_singleton trivial
  refine ⟨hquiet.underway, ?_⟩
  rcases r with e | raw
  · exact hquiet.finished _
  rw [andThen_ok]
  simp only [sat_bind, sat_embed]
  cases codeChallenge flow.library (b64urlNopad raw) with
  | error e => exact hquiet.finished _
  | ok challenge =>
      simp only [andThen_ok, sat_pure, sat_bind, sat_op, sat_embed]
      intro r _ hraw'
      have hquiet₁ := hquiet.append (quiet_singleton (e := ⟨.tokenBytes, r⟩) trivial)
      refine ⟨hquiet₁.underway, ?_⟩
      rcases r with e | raw'
      · exact hquiet₁.finished _
      have hissued := issued_second raw hraw'
      simp only [andThen_ok, sat_pure, sat_bind, sat_raiseIf]
      refine ⟨fun _ => hquiet₁.finished _, fun _ => ?_⟩
      simp only [sat_op, sat_embed]
      intro r _ _
      have hquiet₂ := hquiet₁.append (quiet_singleton (e := ⟨.listen, r⟩) trivial)
      refine ⟨hquiet₂.underway, ?_⟩
      rcases r with e | port
      · exact hquiet₂.finished _
      simp only [andThen_ok, sat_bind, sat_attempt]
      refine sat_weaken (consent_finishes _ port hquiet₂ (hissued.append _)) (fun _ _ h => h)
        fun result τ _ h => ?_
      obtain ⟨hunderway, hfinished⟩ := h
      simp only [sat_bind, sat_op, sat_embed]
      rintro _ _ rfl
      have hshutdown : Quiet [⟨.shutdown, .ok ()⟩] := quiet_singleton trivial
      refine ⟨hunderway.append hshutdown, ?_⟩
      rw [andThen_ok, sat_embed]
      exact hfinished.append hshutdown

end

/-! ### The listener beside it -/

/-- `query` came with a `GET` for the callback path. -/
def Sent (flow : LoopbackOAuthFlow) (requests : List Request) (query : PyStr) : Prop :=
  ∃ request ∈ requests, request.command = str "GET" ∧
    ∃ parts, flow.library.urlsplit request.path = .ok parts ∧ parts.path = flow.callbackPath ∧
      parts.query = query

/-- What the listener performs: it captures what was sent. -/
def ListenerOp (flow : LoopbackOAuthFlow) (requests : List Request) : LoopbackOp → Prop
  | .setCaptured params => ∃ query, flow.Sent requests query ∧ params = capturedOf query
  | .respond _ | .setDone => True
  | _ => False

/-- What the flow performs. -/
def FlowOp : LoopbackOp → Prop
  | .setCaptured _ | .respond _ | .setDone => False
  | _ => True

theorem handle_performs {requests : List Request} {request : Request} (h : request ∈ requests) :
    (handle flow request).Performs (flow.ListenerOp requests) := by
  unfold handle
  split
  · rename_i hget
    refine performs_embed_bind fun parts hparts => ?_
    split
    · exact performs_perform trivial
    · rename_i hpath
      have hsent : flow.Sent requests parts.query :=
        ⟨request, h, hget, parts, hparts, not_not.mp hpath, rfl⟩
      exact performs_bind (performs_perform ⟨_, hsent, rfl⟩) fun _ =>
        performs_bind (performs_perform trivial) fun _ => performs_perform trivial
  · exact performs_perform trivial

theorem serveForever_performs {requests rest : List Request} (h : rest ⊆ requests) :
    (serveForever flow rest).Performs (flow.ListenerOp requests) := by
  induction rest with
  | nil => trivial
  | cons request rest ih =>
      have hrequest : (handle flow request).Performs (flow.ListenerOp requests) :=
        handle_performs (h List.mem_cons_self)
      exact performs_bind (performs_attempt hrequest) fun _ =>
        ih fun other hother => h (List.mem_cons_of_mem _ hother)

theorem run_performs : (run flow).Performs FlowOp := by
  have hexchange : ∀ code verifier uri, (exchange flow code verifier uri).Performs FlowOp := by
    intro code verifier uri
    refine (exchange_performs flow code verifier uri).mono fun o ho => ?_
    cases o with
    | post => trivial
    | now => trivial
    | _ => exact absurd ho id
  have hawait : ∀ pkce state port, (awaitCallback flow pkce state port).Performs FlowOp :=
    fun pkce state port => performs_bind (performs_perform trivial) fun arrived =>
      performs_bind (performs_raiseIf _ _) fun _ => performs_bind (performs_perform trivial)
        fun captured => performs_bind (performs_embed _) fun code => hexchange _ _ _
  have hconsent : ∀ pkce state port, (consent flow pkce state port).Performs FlowOp := by
    intro pkce state port
    unfold consent
    split
    · exact performs_bind (performs_perform trivial) fun _ => performs_bind (performs_embed _)
        fun url => performs_bind (performs_perform trivial) fun _ => hawait _ _ _
    · exact performs_bind (performs_embed _) fun url => performs_bind (performs_perform trivial)
        fun _ => hawait _ _ _
  refine performs_bind ?_ fun pkce => performs_bind ?_ fun state => performs_bind
    (performs_raiseIf _ _) fun _ => performs_bind (performs_perform trivial) fun port =>
      performs_bind (performs_attempt (hconsent _ _ _)) fun result =>
        performs_bind (performs_perform trivial) fun _ => performs_embed _
  · exact performs_bind (performs_perform trivial) fun raw => performs_bind (performs_embed _)
      fun challenge => performs_pure _
  · exact performs_bind (performs_perform trivial) fun raw => performs_pure _

/-- What each thread performs. -/
def ThreadOp (flow : LoopbackOAuthFlow) (requests : List Request) : Nat → LoopbackOp → Prop
  | 0 => FlowOp
  | 1 => flow.ListenerOp requests
  | _ => fun _ => False

theorem start_performs (flow : LoopbackOAuthFlow) (requests : List Request) (t : Nat) :
    ((flow.start requests).threads t).Performs (flow.ThreadOp requests t) := by
  match t with
  | 0 => exact performs_bind run_performs fun tokens => performs_pure _
  | 1 => exact performs_bind (serveForever_performs fun _ h => h) fun _ => performs_pure _
  | t + 2 => exact performs_pure _

section
variable {requests : List Request}
  {c : Config LoopbackSig Exc (Option ReceivedTokens) LoopbackState}

/-- What is captured only changes by capturing. -/
theorem loopbackEnv_captured {s s' : LoopbackState} {o : LoopbackOp} {r : Except Exc o.Ret}
    (h : loopbackEnv s o r s') :
    s'.captured = s.captured ∨ ∃ params, o = .setCaptured params ∧ s'.captured = some params := by
  cases o with
  | tokenBytes =>
      cases r with
      | error e => exact .inl (congrArg _ h)
      | ok raw => exact .inl (congrArg _ h.2)
  | waitDone => exact .inl (congrArg _ h.2)
  | readCaptured => exact .inl (congrArg _ h.2)
  | shutdown => exact .inl (congrArg _ h.2)
  | setDone =>
      obtain rfl : s' = { s with done := true } := h.2
      exact .inl rfl
  | setCaptured params => exact .inr ⟨params, rfl, congrArg _ h.2⟩
  | _ => exact .inl (congrArg _ h)

/-- **The captured parameters were sent**, at every point and wherever they were read. -/
theorem captured_sent (hrun : Run loopbackEnv anyStep (flow.start requests) c) :
    (∀ params, c.state.captured = some params →
      ∃ query, flow.Sent requests query ∧ params = capturedOf query) ∧
    ∀ t params, (t, ⟨.readCaptured, .ok (some params)⟩) ∈ c.history →
      ∃ query, flow.Sent requests query ∧ params = capturedOf query := by
  induction hrun with
  | start => exact ⟨fun params h => (by cases h), fun t params h => absurd h List.not_mem_nil⟩
  | @step c t e c' hrun hC hstep ih =>
      obtain ⟨hstate, hread⟩ := ih
      constructor
      · intro params hparams
        rcases loopbackEnv_captured hstep.answer with heq | ⟨params', hop, heq⟩
        · exact hstate params (heq.symm.trans hparams)
        · obtain rfl : params' = params := Option.some.inj (heq.symm.trans hparams)
          have hperforms := ((hrun.step hC hstep).performs (start_performs flow requests) rfl).1
          rw [hstep.history_eq] at hperforms
          have hthread := hperforms (t, e) (List.mem_append_right _ List.mem_cons_self)
          rw [hop] at hthread
          match t with
          | 0 => exact absurd hthread id
          | 1 => exact hthread
          | t + 2 => exact absurd hthread id
      · intro u params hmem
        rw [hstep.history_eq] at hmem
        rcases List.mem_append.mp hmem with hmem | hmem
        · exact hread u params hmem
        · obtain ⟨-, rfl⟩ := Prod.mk.inj (List.mem_singleton.mp hmem)
          have hans := hstep.answer
          exact hstate params (Except.ok.inj hans.1).symm

/-- What the flow validates is nothing, or was sent. -/
theorem reads_sent (hrun : Run loopbackEnv anyStep (flow.start requests) c)
    {params : CallbackParams} (h : params ∈ reads (eventsOf 0 c.history)) :
    params = [] ∨ ∃ query, flow.Sent requests query ∧ params = capturedOf query := by
  obtain ⟨⟨o, r⟩, he, hparams⟩ := List.mem_filterMap.mp h
  cases o with
  | readCaptured =>
      rcases r with e | captured
      · cases hparams
      cases captured with
      | none =>
          cases hparams
          exact .inl rfl
      | some captured =>
          cases hparams
          exact .inr ((captured_sent hrun).2 0 _ (mem_eventsOf.mp he))
  | _ => cases hparams

/-- A code is taken from a genuine query that was sent. -/
theorem genuine_of_reads (hrun : Run loopbackEnv anyStep (flow.start requests) c)
    {state code : PyStr} {params : CallbackParams} (hissued : Issued (eventsOf 0 c.history) state)
    (hreads : reads (eventsOf 0 c.history) = [params])
    (hcode : extractAuthorizationCode params state = .ok code) :
    ∃ query, flow.Sent requests query ∧ params = capturedOf query ∧
      GenuineQuery state code query := by
  rcases reads_sent hrun (hreads ▸ List.mem_cons_self) with rfl | ⟨query, hsent, rfl⟩
  · have hstate := ((extractAuthorizationCode_eq_ok hissued.ascii).mp hcode).2.1
    exact absurd hstate.symm hissued.ne_nil
  · exact ⟨query, hsent, rfl, (extract_capturedOf hissued.ascii).mp hcode⟩

/-- **Local protocol.** What the flow does in a run, and how it ends. -/
theorem flow_events (hrun : Run loopbackEnv anyStep (flow.start requests) c) :
    Underway flow (eventsOf 0 c.history) ∧
      ∀ r, c.threads 0 = embed r →
        ∃ r', r = r'.map some ∧ Finished flow (eventsOf 0 c.history) r' := by
  have hspec : ∀ t, ((flow.start requests).threads t).sat (anyAnswer loopbackAnswers)
      (fun τ _ => t = 0 → Underway flow τ)
      (fun r τ _ => t = 0 → ∃ r', r = r'.map some ∧ Finished flow τ r') [] () := by
    intro t
    by_cases ht : t = 0
    · subst ht
      change (some <$> run flow).sat _ _ _ [] ()
      rw [map_eq_pure_bind, sat_bind]
      refine sat_weaken run_finishes (fun τ _ h _ => h) fun r τ _ h => ?_
      rcases r with e | tokens
      · exact fun _ => ⟨.error e, rfl, h⟩
      · exact fun _ => ⟨.ok tokens, rfl, h⟩
    · exact sat_weaken (sat_extends (List.prefix_refl _)) (fun _ _ _ h => absurd h ht)
        fun _ _ _ _ h => absurd h ht
  obtain ⟨hunderway, hsat⟩ := hrun.localEvents loopbackEnv_answers
    (J := fun t τ => t = 0 → Underway flow τ) (fun t _ => .silent rfl) rfl hspec 0
  refine ⟨hunderway rfl, fun r hr => ?_⟩
  rw [hr, sat_embed] at hsat
  exact hsat rfl

/-- The operations of the flow are always answered. -/
theorem flowOp_answered (s : LoopbackState) (o : LoopbackOp) (h : FlowOp o) :
    ∃ r s', loopbackEnv s o r s' := by
  cases o with
  | tokenBytes => exact ⟨.error .other, s, rfl⟩
  | listen => exact ⟨.error .other, s, rfl⟩
  | waitDone => exact ⟨.ok s.done, s, rfl, rfl⟩
  | readCaptured => exact ⟨.ok s.captured, s, rfl, rfl⟩
  | shutdown => exact ⟨.ok (), s, rfl, rfl⟩
  | onRedirectUri => exact ⟨.error .other, s, rfl⟩
  | openBrowser => exact ⟨.error .other, s, rfl⟩
  | post => exact ⟨.error .other, s, rfl⟩
  | now => exact ⟨.error .other, s, rfl⟩
  | _ => exact absurd h id

/-- Only the flow posts. -/
theorem post_thread (hrun : Run loopbackEnv anyStep (flow.start requests) c)
    {post : PyStr × List (PyStr × PyStr) × Bytes}
    (h : post ∈ posts (c.history.map Prod.snd)) : post ∈ posts (eventsOf 0 c.history) := by
  obtain ⟨e, he, hpost⟩ := List.mem_filterMap.mp h
  obtain ⟨⟨t, e'⟩, hmem, rfl⟩ := List.mem_map.mp he
  have hthread := (hrun.performs (start_performs flow requests) rfl).1 _ hmem
  refine List.mem_filterMap.mpr ⟨e', mem_eventsOf.mpr ?_, hpost⟩
  obtain ⟨o, r⟩ := e'
  cases o with
  | post url headers body =>
      match t with
      | 0 => exact hmem
      | 1 => exact absurd hthread id
      | t + 2 => exact absurd hthread id
  | _ => cases hpost

end

/-- **Only a genuine callback is exchanged**, for any requests and any interleaving with the
listener, and the flow can always run to its end. Once it has waited for a callback it ends with
such an exchange, or with an `OAuthError` and none at all, if and only if the state it reads is
ASCII. -/
theorem run_exchangesGenuine (flow : LoopbackOAuthFlow) (requests : List Request)
    {c : Config LoopbackSig Exc (Option ReceivedTokens) LoopbackState}
    (hrun : Run loopbackEnv anyStep (flow.start requests) c) :
    (∃ c' r, Run loopbackEnv anyStep c c' ∧ c'.threads 0 = embed r) ∧
    (∀ post ∈ posts (c.history.map Prod.snd), ∃ state code query,
      issuedState (eventsOf 0 c.history) = some state ∧ flow.Sent requests query ∧
        GenuineQuery state code query ∧ flow.Exchanges code post) ∧
    ∀ r, c.threads 0 = embed r → waits (eventsOf 0 c.history) ≠ [] →
      ((∃ state code query, issuedState (eventsOf 0 c.history) = some state ∧
            flow.Sent requests query ∧ reads (eventsOf 0 c.history) = [capturedOf query] ∧
            GenuineQuery state code query) ∨
          (posts (c.history.map Prod.snd) = [] ∧
            ∃ errorClass message, r = .error (.oauth errorClass message)) ↔
        ∀ params ∈ reads (eventsOf 0 c.history), isAscii (params.getStr "state") = true) := by
  obtain ⟨hunderway, hend⟩ := flow_events hrun
  refine ⟨?_, fun post hpost => ?_, fun r hr hwaits => ?_⟩
  · exact Run.finishes flowOp_answered ((hrun.performs (start_performs flow requests) rfl).2 0)
  · have hpost' := post_thread hrun hpost
    cases hunderway with
    | silent h =>
        rw [h] at hpost'
        cases hpost'
    | exchanging hissued hreads hcode hposts =>
        obtain ⟨query, hsent, -, hgenuine⟩ := genuine_of_reads hrun hissued hreads hcode
        exact ⟨_, _, query, hissued.eq, hsent, hgenuine, hposts post hpost'⟩
  · have hsilent : posts (eventsOf 0 c.history) = [] → posts (c.history.map Prod.snd) = [] := by
      intro hnone
      refine List.eq_nil_iff_forall_not_mem.mpr fun post hpost => ?_
      have hpost' := post_thread hrun hpost
      rw [hnone] at hpost'
      cases hpost'
    obtain ⟨r', rfl, hfinished⟩ := hend r hr
    cases hfinished with
    | unstarted h => exact absurd h hwaits
    | timedOut hreads hposts =>
        rw [hreads]
        exact ⟨fun _ params h => absurd h List.not_mem_nil,
          fun _ => .inr ⟨hsilent hposts, _, _, rfl⟩⟩
    | @refused state params e hissued hreads hrefused hposts =>
        have herror := extractAuthorizationCode_error hissued.ascii hissued.ne_nil hrefused
        rw [hreads, List.forall_mem_singleton, ← herror]
        constructor
        · intro h
          rcases h with ⟨state', code, query, hstate, -, hcaptured, hgenuine⟩ | ⟨-, cls, text, he⟩
          · obtain rfl := List.singleton_inj.mp hcaptured
            obtain rfl := Option.some.inj (hissued.eq.symm.trans hstate)
            rw [(extract_capturedOf hissued.ascii).mpr hgenuine] at hrefused
            cases hrefused
          · exact ⟨cls, text, Except.error.inj he⟩
        · intro h
          obtain ⟨cls, text, rfl⟩ := h
          exact .inr ⟨hsilent hposts, cls, text, rfl⟩
    | @exchanged state code params _ hissued hreads hcode =>
        obtain ⟨query, hsent, rfl, hgenuine⟩ := genuine_of_reads hrun hissued hreads hcode
        have hstate := ((extractAuthorizationCode_eq_ok hissued.ascii).mp hcode).2.1
        rw [hreads, List.forall_mem_singleton, hstate]
        exact ⟨fun _ => hissued.ascii,
          fun _ => .inl ⟨state, code, query, hissued.eq, hsent, rfl, hgenuine⟩⟩

/-! ### Two runs -/

/-- `urlsplit` of the redirect URI, and of a path with a query. -/
def splitSample (url : PyStr) : SplitUrl :=
  if url = str "http://127.0.0.1:8400/oauth2/callback" then
    { scheme := str "http", username := none, password := none, hostname := some (str "127.0.0.1")
      port := .ok (some 8400), path := str "/oauth2/callback", query := [] }
  else
    let parts := partition url (CodePoint.ofChar '?')
    { scheme := [], username := none, password := none, hostname := none, port := .ok none
      path := parts.1, query := parts.2 }

/-- A library that reads UTF-8 and JSON, and knows one token endpoint. -/
def sampleLoopback : LoopbackLibrary where
  mail :=
    { Message := Unit
      empty := ()
      setHeader := fun msg _ _ => .ok msg
      setContent := fun msg _ => .ok msg
      asBytes := fun _ => .ok []
      urlsplit := fun _ => .ok (str "https", some (str "oauth2.googleapis.com"))
      jsonLoads := fun _ => .error .valueError }
  urlsplit url := .ok (splitSample url)
  isLoopbackAddress host := host = str "127.0.0.1"
  sha256 _ := List.replicate 32 0
  loads body :=
    match decodeUtf8 body with
    | some text => Json.loads (fun _ => .nan) text
    | none => .error .valueError
  repr _ := []

def sampleFlow : LoopbackOAuthFlow where
  library := sampleLoopback
  clientId := str "c"
  egress := { allow := oauthAllowHosts }
  allow_eq := oauthAllowHosts_eq
  host_loopback := by decide +kernel

/-- What the token endpoint answers. -/
def sampleTokenBody : Bytes := (encodeUtf8 (str "\x7b\"access_token\": \"t\"\x7d")).getD []

/-- Random bytes that are all zero, and collaborators that succeed. -/
def sampleAnswer (_ : Nat) (s : LoopbackState) : (o : LoopbackOp) → Except Exc o.Ret × LoopbackState
  | .tokenBytes => (.ok (List.replicate 32 0), s)
  | .listen => (.ok 8400, s)
  | .waitDone => (.ok s.done, s)
  | .readCaptured => (.ok s.captured, s)
  | .post _ _ _ => (.ok (200, sampleTokenBody), s)
  | .now => (.ok 0, s)
  | .setCaptured captured => (.ok (), { s with captured := some captured })
  | .setDone => (.ok (), { s with done := true })
  | .onRedirectUri _ => (.ok (), s)
  | .openBrowser _ => (.ok (), s)
  | .shutdown => (.ok (), s)
  | .respond _ => (.ok (), s)

theorem sampleAnswer_env (t : Nat) (s : LoopbackState) (o : LoopbackOp) :
    loopbackEnv s o (sampleAnswer t s o).1 (sampleAnswer t s o).2 := by
  cases o with
  | tokenBytes => exact ⟨rfl, rfl⟩
  | waitDone => exact ⟨rfl, rfl⟩
  | readCaptured => exact ⟨rfl, rfl⟩
  | shutdown => exact ⟨rfl, rfl⟩
  | setCaptured => exact ⟨rfl, rfl⟩
  | setDone => exact ⟨rfl, rfl⟩
  | _ => rfl

/-- The flow gets to its wait, the listener serves one callback, and the flow runs to its end. -/
def calledBack (query : PyStr) : Config LoopbackSig Exc (Option ReceivedTokens) LoopbackState :=
  Config.schedule sampleAnswer (List.replicate 4 0 ++ List.replicate 3 1 ++ List.replicate 5 0)
    (sampleFlow.start [{ command := str "GET", path := str "/oauth2/callback?" ++ query }])

theorem calledBack_run (query : PyStr) : Run loopbackEnv anyStep
    (sampleFlow.start [{ command := str "GET", path := str "/oauth2/callback?" ++ query }])
    (calledBack query) :=
  Config.schedule_anyStep sampleAnswer_env _ _

/-- How a thread has ended, as far as it matters here. -/
def ended? {α : Type} : LoopbackProc α → Option Bool
  | .raise .typeError => some false
  | .ret _ => some true
  | _ => none

theorem eq_of_ended? {α : Type} {p : LoopbackProc α} (h : ended? p = some false) :
    p = embed (.error .typeError) := by
  unfold ended? at h
  split at h
  · rfl
  all_goals cases h

theorem exists_of_ended? {α : Type} {p : LoopbackProc α} (h : ended? p = some true) :
    ∃ tokens, p = embed (.ok tokens) := by
  unfold ended? at h
  split at h
  · cases h
  · exact ⟨_, rfl⟩
  · cases h

/-- A state that is not ASCII: the flow raises a `TypeError`. -/
theorem run_raisesTypeError :
    ¬ ∀ (flow : LoopbackOAuthFlow) (requests : List Request)
      (c : Config LoopbackSig Exc (Option ReceivedTokens) LoopbackState),
      Run loopbackEnv anyStep (flow.start requests) c →
      ∀ r, c.threads 0 = embed r → waits (eventsOf 0 c.history) ≠ [] →
        (∃ state code query, issuedState (eventsOf 0 c.history) = some state ∧
            flow.Sent requests query ∧ reads (eventsOf 0 c.history) = [capturedOf query] ∧
            GenuineQuery state code query) ∨
          (posts (c.history.map Prod.snd) = [] ∧
            ∃ errorClass message, r = .error (.oauth errorClass message)) := by
  intro hclaim
  have hrun : ended? ((calledBack (str "state=%C3%A9&code=x")).threads 0) = some false ∧
      waits (eventsOf 0 (calledBack (str "state=%C3%A9&code=x")).history) = [true] ∧
      reads (eventsOf 0 (calledBack (str "state=%C3%A9&code=x")).history) =
        [[(str "state", str "é"), (str "code", str "x")]] ∧
      issuedState (eventsOf 0 (calledBack (str "state=%C3%A9&code=x")).history) =
        some (List.replicate 43 (CodePoint.ofChar 'A')) := by decide +kernel
  obtain ⟨hended, hwaits, hreads, hissued⟩ := hrun
  have hwaited : waits (eventsOf 0 (calledBack (str "state=%C3%A9&code=x")).history) ≠ [] := by
    rw [hwaits]
    exact List.cons_ne_nil _ _
  rcases hclaim sampleFlow _ _ (calledBack_run _) _ (eq_of_ended? hended) hwaited with h | h
  · obtain ⟨state, code, query, hstate, -, hcaptured, hgenuine⟩ := h
    rw [hissued] at hstate
    obtain rfl := Option.some.inj hstate
    rw [hreads] at hcaptured
    have hcode := (extract_capturedOf (by decide)).mpr hgenuine
    rw [← List.singleton_inj.mp hcaptured] at hcode
    have hrefused : (extractAuthorizationCode [(str "state", str "é"), (str "code", str "x")]
        (List.replicate 43 (CodePoint.ofChar 'A'))).toOption = none := by decide
    rw [hcode] at hrefused
    cases hrefused
  · obtain ⟨-, errorClass, message, he⟩ := h
    cases he

/-- The issued state and a code, with a second state after them. -/
def genuineQuery : PyStr :=
  str "state=" ++ List.replicate 43 (CodePoint.ofChar 'A') ++ str "&code=4%2Fx&state=%C3%A9"

/-- It is exchanged, once. -/
theorem run_exchangesGenuine_sample :
    posts ((calledBack genuineQuery).history.map Prod.snd) ≠ [] ∧
      (∀ post ∈ posts ((calledBack genuineQuery).history.map Prod.snd), ∃ state code query,
        issuedState (eventsOf 0 (calledBack genuineQuery).history) = some state ∧
          sampleFlow.Sent
            [{ command := str "GET", path := str "/oauth2/callback?" ++ genuineQuery }] query ∧
          GenuineQuery state code query ∧ sampleFlow.Exchanges code post) ∧
      ∃ state code query,
        issuedState (eventsOf 0 (calledBack genuineQuery).history) = some state ∧
          reads (eventsOf 0 (calledBack genuineQuery).history) = [capturedOf query] ∧
          GenuineQuery state code query := by
  have hrun : ended? ((calledBack genuineQuery).threads 0) = some true ∧
      waits (eventsOf 0 (calledBack genuineQuery).history) = [true] ∧
      reads (eventsOf 0 (calledBack genuineQuery).history) = [capturedOf genuineQuery] ∧
      (posts ((calledBack genuineQuery).history.map Prod.snd)).length = 1 ∧
      isAscii ((capturedOf genuineQuery).getStr "state") = true := by decide +kernel
  obtain ⟨hended, hwaits, hreads, hposts, hascii⟩ := hrun
  obtain ⟨tokens, htokens⟩ := exists_of_ended? hended
  have hwaited : waits (eventsOf 0 (calledBack genuineQuery).history) ≠ [] := by
    rw [hwaits]
    exact List.cons_ne_nil _ _
  have hposted : posts ((calledBack genuineQuery).history.map Prod.snd) ≠ [] := by
    intro hnil
    rw [hnil] at hposts
    cases hposts
  obtain ⟨-, hexchanged, hend⟩ := run_exchangesGenuine sampleFlow _ (calledBack_run genuineQuery)
  refine ⟨hposted, hexchanged, ?_⟩
  have hreadsAscii : ∀ params ∈ reads (eventsOf 0 (calledBack genuineQuery).history),
      isAscii (params.getStr "state") = true := by
    rw [hreads]
    exact List.forall_mem_singleton.mpr hascii
  rcases (hend _ htokens hwaited).mpr hreadsAscii with h | h
  · obtain ⟨state, code, query, hstate, -, hcaptured, hgenuine⟩ := h
    exact ⟨state, code, query, hstate, hcaptured, hgenuine⟩
  · exact absurd h.1 hposted

end LoopbackOAuthFlow

end GmailGateway
