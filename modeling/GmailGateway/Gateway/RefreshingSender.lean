import GmailGateway.Gateway.RefreshFailures
import GmailGateway.Gateway.Transplant

/-!
# GmailGateway.Gateway.RefreshingSender

**The sender with the token provider plugged in.** `GmailSender` asks its token provider once,
before it contacts Gmail. With `RefreshingTokenProvider` in its place a dispatch is one procedure
over the stores, the sealed record, the clock, the token endpoint and Gmail, and what the provider
can end with decides how the dispatch is settled.
-/

namespace GmailGateway

open Effect Proc Python

/-! ### The collaborators -/

/-- What a dispatch performs whose access token comes from the refreshing provider. -/
inductive RefreshingOp
  | gateway (gatewayOp : GatewayOp)
  /-- On what the token provider uses. -/
  | refresh (refreshOp : RefreshOp)
  /-- Invoke the transport to Gmail. -/
  | post (url : PyStr) (headers : List (PyStr × PyStr)) (body : Bytes)

/-- The answers of the three parties. -/
abbrev RefreshingOp.Ret : RefreshingOp → Type
  | .gateway gatewayOp => gatewayOp.Ret
  | .refresh refreshOp => refreshOp.Ret
  | .post _ _ _ => Int × Bytes

/-- The stores, the token provider's collaborators and the transport to Gmail. -/
abbrev RefreshingSig : Signature := ⟨RefreshingOp, RefreshingOp.Ret⟩

/-- An operation with its answer. -/
abbrev RefreshingEvent := Event RefreshingSig Exc

/-- A procedure over the three parties. -/
abbrev RefreshingProc (α : Type) := Proc RefreshingSig Exc α

/-- A procedure of the token provider. -/
abbrev onRefresh {α : Type} (p : RefreshProc α) : RefreshingProc α :=
  p.implement fun refreshOp => perform (S := RefreshingSig) (.refresh refreshOp)

/-- The stores of the gateway, and the backend of the sealed record. -/
structure RefreshingState where
  gateway : GatewayState
  records : Records

/-- Each party answers for itself; a post leaves the local state as it is. -/
def refreshingEnv (dek : Bytes) : Env RefreshingSig Exc RefreshingState
  | s, .gateway o, r, s' => wireEnv s.gateway (.gateway o) r s'.gateway ∧ s'.records = s.records
  | s, .refresh o, r, s' => refreshEnv dek s.records o r s'.records ∧ s'.gateway = s.gateway
  | s, .post _ _ _, _, s' => s' = s

namespace RefreshingTokenProvider

/-- The token that goes into the header is a string. -/
def authorize (provider : RefreshingTokenProvider) : (o : WireOp) → RefreshingProc o.Ret
  | .gateway o => perform (S := RefreshingSig) (.gateway o)
  | .token => do
      let accessToken ← onRefresh provider.accessToken
      embed (expectStr .typeError accessToken)
  | .post url headers body => perform (S := RefreshingSig) (.post url headers body)

/-- `SendFSM.dispatch` over a `GmailSender` with this token provider. -/
def dispatch (provider : RefreshingTokenProvider) (P : Platform) (cfg : GmailSenderConfig)
    (proposalId : PyStr) (now : Int) : RefreshingProc ProposalStatus :=
  (GmailSender.dispatch P cfg proposalId now).implement provider.authorize

end RefreshingTokenProvider

/-! ### What a dispatch did -/

/-- The event, if it is one of the token provider. -/
def RefreshingEvent.refresh? : RefreshingEvent → Option RefreshEvent
  | ⟨.refresh o, a⟩ => some ⟨o, a⟩
  | _ => none

/-- The answer of the transport, if the event is a post to Gmail. -/
def RefreshingEvent.post? : RefreshingEvent → Option (Except Exc (Int × Bytes))
  | ⟨.post _ _ _, a⟩ => some a
  | _ => none

/-- What the token provider did, oldest first. -/
def refreshEvents (θ : List RefreshingEvent) : List RefreshEvent :=
  θ.filterMap RefreshingEvent.refresh?

/-- The answers of Gmail, oldest first. -/
def gmailPosts (θ : List RefreshingEvent) : List (Except Exc (Int × Bytes)) :=
  θ.filterMap RefreshingEvent.post?

@[simp] theorem refreshEvents_append (θ θ' : List RefreshingEvent) :
    refreshEvents (θ ++ θ') = refreshEvents θ ++ refreshEvents θ' := List.filterMap_append

@[simp] theorem gmailPosts_append (θ θ' : List RefreshingEvent) :
    gmailPosts (θ ++ θ') = gmailPosts θ ++ gmailPosts θ' := List.filterMap_append

/-- What the token provider gave, if the event asked it. -/
def tokenOf? : WireEvent → Option (Except Exc PyStr)
  | ⟨.token, a⟩ => some a
  | _ => none

/-- What the token provider answered, oldest first. -/
def tokensOf (τ : List WireEvent) : List (Except Exc PyStr) := τ.filterMap tokenOf?

@[simp] theorem tokensOf_append (τ τ' : List WireEvent) :
    tokensOf (τ ++ τ') = tokensOf τ ++ tokensOf τ' := List.filterMap_append

/-- The stores ask for no token. -/
theorem tokensOf_senderEvents (τ : List WireEvent) : tokensOf (senderEvents τ) = tokensOf τ := by
  rw [tokensOf, senderEvents, List.filterMap_filter]
  refine List.filterMap_congr fun e _ => ?_
  obtain ⟨o, a⟩ := e
  cases o with
  | gateway o => cases o <;> rfl
  | token | post => rfl

namespace RefreshingTokenProvider

section
variable {provider : RefreshingTokenProvider} {dek : Bytes} {record : Dict} {s : Records}

/-- What the provider guarantees, it does inside of the sender. -/
theorem sat_onRefresh {α : Type} {p : RefreshProc α}
    {Q : Except Exc α → List RefreshEvent → Records → Prop} {θ : List RefreshingEvent}
    {t : RefreshingState} (hp : p.sat (refreshEnv dek) (fun _ _ => True) Q [] t.records) :
    (onRefresh p).sat (refreshingEnv dek) (fun _ _ => True) (fun x θ' t' =>
      t'.gateway = t.gateway ∧ gmailPosts θ' = gmailPosts θ ∧
        ∃ evs, refreshEvents θ' = refreshEvents θ ++ evs ∧ Q x evs t'.records) θ t := by
  refine sat_mono (sat_implement (R := fun τ s θ' t' => t'.records = s ∧ t'.gateway = t.gateway ∧
    gmailPosts θ' = gmailPosts θ ∧ refreshEvents θ' = refreshEvents θ ++ τ) ?_ hp
      ⟨rfl, rfl, rfl, (List.append_nil _).symm⟩) ?_
  · intro o τ s θ' t' _ hR r t'' hw
    obtain ⟨rfl, hgateway, hposts, hevents⟩ := hR
    obtain ⟨hw, hsame⟩ := hw
    refine ⟨trivial, (sat_embed r).mpr ⟨_, hw, rfl, hsame.trans hgateway, ?_, ?_⟩⟩
    · rw [gmailPosts_append, hposts]
      exact List.append_nil _
    · rw [refreshEvents_append, hevents, List.append_assoc]
      rfl
  · intro x θ' t' h
    obtain ⟨τ, _, ⟨rfl, hgateway, hposts, hevents⟩, hx⟩ := h
    exact ⟨hgateway, hposts, τ, hevents, hx⟩

variable (provider dek record s)

/-- What the answers of the token provider came from, as long as there is at most one. -/
inductive TokenCalls : List (Except Exc PyStr) → List RefreshEvent → Records → Prop
  | none : TokenCalls [] [] s
  | once {a : Except Exc PyStr} {evs : List RefreshEvent} {s' : Records} :
      provider.Accessed dek record s (ticks evs) (endpointAnswers evs) (a.map .str) s' →
      TokenCalls [a] evs s'
  | more {answers : List (Except Exc PyStr)} {evs : List RefreshEvent} {s' : Records} :
      2 ≤ answers.length → TokenCalls answers evs s'

/-- The sender and the stores are the same, and its tokens are those of the provider. -/
structure Authorized (τ : List WireEvent) (g : GatewayState) (θ : List RefreshingEvent)
    (t : RefreshingState) : Prop where
  gateway : t.gateway = g
  posts : gmailPosts θ = postsOf τ
  tokens : TokenCalls provider dek record s (tokensOf τ) (refreshEvents θ) t.records

variable {provider dek record s}

/-- Whatever a call of the provider does, it does not touch the stores or Gmail. -/
theorem onRefresh_frame {α : Type} (p : RefreshProc α) {θ : List RefreshingEvent}
    {t : RefreshingState} :
    (onRefresh p).sat (refreshingEnv dek) (fun _ _ => True) (fun _ θ' t' =>
      t'.gateway = t.gateway ∧ gmailPosts θ' = gmailPosts θ) θ t :=
  sat_weaken (sat_onRefresh (Q := fun _ _ _ => True) (sat_of_exec fun _ _ _ _ => trivial)) (fun _ _ h => h)
    fun _ _ _ h => ⟨h.1, h.2.1⟩

/-- What a call returns is a string. -/
theorem Accessed.expectStr {now : List Int} {answers : List EndpointAnswer}
    {x : Except Exc PyVal} {s' : Records} (h : provider.Accessed dek record s now answers x s') :
    (x >>= GmailGateway.expectStr .typeError).map .str = x := by
  cases h <;> rfl

variable (hideal : provider.gcm.IdealAead) (hdek : dek.length = dekLen)
  (hsplit : provider.EndpointSplits) (hopens : Opens provider.json provider.gcm dek s record)

include hideal hdek hsplit hopens

/-- Asking for the first token. -/
theorem authorize_token {θ : List RefreshingEvent} {t : RefreshingState} (hrecords : t.records = s)
    (hnone : refreshEvents θ = []) :
    (provider.authorize .token).sat (refreshingEnv dek) (fun _ _ => True) (fun r θ' t' =>
      t'.gateway = t.gateway ∧ gmailPosts θ' = gmailPosts θ ∧
        provider.Accessed dek record s (ticks (refreshEvents θ'))
          (endpointAnswers (refreshEvents θ')) (r.map .str) t'.records) θ t := by
  rw [authorize, sat_bind]
  subst hrecords
  refine sat_mono (sat_onRefresh (accessToken_meets hideal hdek hsplit hopens)) ?_
  intro x θ' t' h
  obtain ⟨hgateway, hposts, evs, hevents, haccessed⟩ := h
  rw [hnone, List.nil_append] at hevents
  subst hevents
  have hstring := haccessed.expectStr
  cases x with
  | error e => exact ⟨hgateway, hposts, haccessed⟩
  | ok v =>
      rw [andThen_ok, sat_embed]
      have hmap : (GmailGateway.expectStr .typeError v).map .str = .ok v := hstring
      rw [hmap]
      exact ⟨hgateway, hposts, haccessed⟩

/-- **One operation of the sender.** -/
theorem authorize_authorized (o : WireOp) {τ : List WireEvent} {g : GatewayState}
    {θ : List RefreshingEvent} {t : RefreshingState}
    (h : Authorized provider dek record s τ g θ t) :
    (provider.authorize o).sat (refreshingEnv dek) (fun _ _ => True) (fun r θ' t' => ∃ g',
      wireEnv g o r g' ∧ Authorized provider dek record s (τ ++ [⟨o, r⟩]) g' θ' t') θ t := by
  obtain ⟨rfl, hposts, htokens⟩ := h
  cases o with
  | gateway o =>
      intro r t' hw
      obtain ⟨hw, hrecords⟩ := hw
      refine ⟨trivial, (sat_embed r).mpr ⟨_, hw, rfl, ?_, ?_⟩⟩
      · rw [gmailPosts_append, postsOf_append, hposts]
        rfl
      · rw [tokensOf_append, refreshEvents_append, hrecords]
        change TokenCalls provider dek record s (tokensOf τ ++ []) (refreshEvents θ ++ []) t.records
        rw [List.append_nil, List.append_nil]
        exact htokens
  | post url headers body =>
      intro r t' hw
      obtain rfl : t' = t := hw
      refine ⟨trivial, (sat_embed r).mpr ⟨t'.gateway, rfl, rfl, ?_, ?_⟩⟩
      · rw [gmailPosts_append, postsOf_append, hposts]
        rfl
      · rw [tokensOf_append, refreshEvents_append]
        change TokenCalls provider dek record s (tokensOf τ ++ []) (refreshEvents θ ++ []) t'.records
        rw [List.append_nil, List.append_nil]
        exact htokens
  | token =>
      have hquiet (r : Except Exc PyStr) : postsOf (τ ++ [⟨.token, r⟩]) = postsOf τ := by
        rw [postsOf_append]
        exact List.append_nil _
      by_cases hfirst : tokensOf τ = []
      · rw [hfirst] at htokens
        generalize hevents : refreshEvents θ = evs at htokens
        generalize hrecords : t.records = records at htokens
        cases htokens with
        | none =>
            refine sat_mono (authorize_token hideal hdek hsplit hopens hrecords hevents) ?_
            intro r θ' t' h
            obtain ⟨hgateway, hposts', haccessed⟩ := h
            refine ⟨t'.gateway, hgateway, rfl, ?_, ?_⟩
            · rw [hposts', hposts, hquiet]
            · rw [tokensOf_append, hfirst]
              exact .once haccessed
        | more hlength => exact absurd hlength (by decide)
      · -- a second token, of which nothing is said
        rw [authorize, sat_bind]
        refine sat_mono (onRefresh_frame provider.accessToken) ?_
        intro x θ' t' h
        obtain ⟨hgateway, hposts'⟩ := h
        have hrest (r : Except Exc PyStr) : ∃ g', wireEnv t.gateway .token r g' ∧
            Authorized provider dek record s (τ ++ [⟨.token, r⟩]) g' θ' t' := by
          refine ⟨t'.gateway, hgateway, rfl, by rw [hposts', hposts, hquiet], .more ?_⟩
          rw [tokensOf_append, List.length_append]
          have hpos := List.length_pos_iff.mpr hfirst
          exact Nat.succ_le_succ hpos
        cases x with
        | error e => exact hrest (.error e)
        | ok v =>
            rw [andThen_ok, sat_embed]
            exact hrest _

/-- **A dispatch**, as one over any token provider. -/
theorem dispatch_meets (P : Platform) (cfg : GmailSenderConfig) {proposalId : PyStr} (now : Int)
    {g : GatewayState} {p : Proposal} (hp : g.store.proposal? proposalId = some p)
    (hconfirmed : p.status = .confirmed) :
    (provider.dispatch P cfg proposalId now).sat (refreshingEnv dek) (fun _ _ => True)
      (fun r θ t => ∃ τ g', Authorized provider dek record s τ g' θ t ∧ ∃ τ' u,
        GmailSender.Coupled P cfg τ' u τ g' ∧
          SendFsm.DispatchRows proposalId now p g.store r (answersOf τ') u) [] ⟨g, s⟩ :=
  sat_implement (fun o _ _ _ _ _ h => authorize_authorized hideal hdek hsplit hopens o h)
    (GmailSender.dispatch_meets P cfg now hp hconfirmed) ⟨rfl, rfl, .none⟩

end

/-! ### Failing closed -/

/-- A message that was not sent, for want of a token: Gmail was not contacted. -/
structure Withheld (proposalId : PyStr) (now : Int) (p : Proposal) (s : RefreshingState)
    (θ : List RefreshingEvent) (r : Except Exc ProposalStatus) (s' : RefreshingState) : Prop where
  posts : gmailPosts θ = []
  returned : r = .ok .failed
  status : s'.gateway.store.status? proposalId = some .failed
  ledger : s'.gateway.store.ledger = s.gateway.store.ledger ++
    [SendFsm.attemptedRow p proposalId now, SendFsm.settledRow proposalId now
      (.ok { kind := .rejected, errorCode := str "authorization_required" })]
  records : s'.records = s.records

section
variable {provider : RefreshingTokenProvider} {dek : Bytes} {record : Dict} {s : Records}

theorem TokenCalls.eq_nil {evs : List RefreshEvent} {s' : Records}
    (h : TokenCalls provider dek record s [] evs s') : evs = [] := by
  cases h with
  | none => rfl
  | more hlength => exact absurd hlength (by decide)

theorem TokenCalls.accessed {a : Except Exc PyStr} {evs : List RefreshEvent} {s' : Records}
    (h : TokenCalls provider dek record s [a] evs s') :
    provider.Accessed dek record s (ticks evs) (endpointAnswers evs) (a.map .str) s' := by
  cases h with
  | once haccessed => exact haccessed
  | more hlength => exact absurd hlength (Nat.not_succ_le_self 1)

/-- A call that raises leaves the record. -/
theorem Accessed.of_error {now : List Int} {answers : List EndpointAnswer} {e : Exc} {s' : Records}
    (h : provider.Accessed dek record s now answers (.error e) s') : s' = s := by
  cases h <;> rfl

end

/-- **A failed refresh.** A call ends in a token, or in an `OAuthError` that left the record, exactly
if nothing escapes. In a dispatch that asked for a token, that token goes on to Gmail or the message
is withheld, exactly if nothing escapes. -/
theorem accessToken_failsClosed {provider : RefreshingTokenProvider} {dek : Bytes} {record : Dict}
    {s : RefreshingState} (hideal : provider.gcm.IdealAead) (hdek : dek.length = dekLen)
    (hsplit : provider.EndpointSplits)
    (hopens : Opens provider.json provider.gcm dek s.records record) :
    (∀ τ x records, Exec (refreshEnv dek) provider.accessToken s.records τ (.done x) records →
      (FailsClosed s.records x records ↔
        ¬ provider.Escapes record (ticks τ) (endpointAnswers τ))) ∧
    ∀ P cfg proposalId now p, s.gateway.store.proposal? proposalId = some p →
      p.status = .confirmed → ∀ θ r s',
        Exec (refreshingEnv dek) (provider.dispatch P cfg proposalId now) s θ (.done r) s' →
          refreshEvents θ ≠ [] → ∃ x,
            provider.Accessed dek record s.records (ticks (refreshEvents θ))
              (endpointAnswers (refreshEvents θ)) x s'.records ∧
            ((∃ token, x = .ok (.str token)) ∨ Withheld proposalId now p s θ r s' ↔
              ¬ provider.Escapes record (ticks (refreshEvents θ))
                (endpointAnswers (refreshEvents θ))) := by
  refine ⟨fun τ x records hx => ?_, ?_⟩
  · exact (hx.post (accessToken_meets hideal hdek hsplit hopens)).failsClosed_iff
  intro P cfg proposalId now p hp hconfirmed θ r s' hx hasked
  obtain ⟨τ, g, ⟨rfl, hposts, htokens⟩, τ', u, hcoupled, hrows⟩ :=
    hx.post (dispatch_meets hideal hdek hsplit hopens P cfg now hp hconfirmed)
  have hcalls := hcoupled.calls
  rw [← tokensOf_senderEvents] at htokens
  rw [← postsOf_senderEvents] at hposts
  generalize senderEvents τ = evs at htokens hposts hcalls
  generalize answersOf τ' = answers at hrows hcalls
  cases hrows with
  | refused =>
      rw [hcalls.eq_nil] at htokens
      exact absurd htokens.eq_nil hasked
  | @settled answer _ _ hkv hledger =>
      have hstatus : s'.gateway.store.status? proposalId = some (SendFsm.settledStatus answer) := by
        have hrow := hcoupled.kv.symm.trans hkv
        simp [StoreState.status?, StoreState.proposal?, hrow, Except.toOption]
      cases hcalls.called with
      | unloaded | policyBlocked | unrendered => exact absurd htokens.eq_nil hasked
      | unauthorized =>
          have haccessed := htokens.accessed
          refine ⟨_, haccessed, ?_⟩
          rw [← haccessed.failsClosed_iff]
          have hsame := haccessed.of_error
          refine iff_of_true (.inr ⟨hposts, rfl, hstatus, ?_, hsame⟩) (.inr ⟨?_, hsame⟩)
          · exact hcoupled.ledger.symm.trans hledger
          · exact ⟨_, rfl, _, _, rfl⟩
      | @tokenless _ e hno =>
          have haccessed : provider.Accessed dek record s.records _ _ (.error e) _ :=
            htokens.accessed
          refine ⟨_, haccessed, ?_⟩
          rw [← haccessed.failsClosed_iff, haccessed.of_error, failsClosed_error]
          refine iff_of_false ?_ (Exc.not_isOAuth hno)
          rintro (⟨_, h⟩ | h)
          · cases h
          · cases h.returned
      | refused | posted =>
          have haccessed := htokens.accessed
          refine ⟨_, haccessed, ?_⟩
          rw [← haccessed.failsClosed_iff]
          exact iff_of_true (.inl ⟨_, rfl⟩) (.inl ⟨_, rfl⟩)

/-! ### A response with a number for a scope -/

/-- A JSON parser that knows no number with a fraction, and the texts of some values. -/
def tabledJson (texts : List (PyVal × Bytes)) : JsonCodec PyVal Bytes where
  dumps v :=
    match texts.lookup v with
    | some text => .ok text
    | none => .error .valueError
  loads text := sampleJson.loads text

/-- The one scope of v1. -/
def gmailSendScope : PyStr := str "https://www.googleapis.com/auth/gmail.send"

/-- A token that has expired at 200. -/
def sampleToken : SendPath.SealedTokenStore.Token where
  accessToken := .str (str "old")
  refreshToken := .str (str "1//refresh")
  issuedAt := .int 100
  expiresAt := .int 200
  clientId := .str (str "cid.apps")
  scope := .str gmailSendScope

@[irreducible] def sampleTokenText : Bytes :=
  [str "\x7b\"access_token\": \"old\", ", str "\"refresh_token\": \"1//refresh\", ",
    str "\"issued_at\": 100, ", str "\"expires_at\": 200, ", str "\"client_id\": \"cid.apps\", ",
    str "\"client_secret\": null, ", str "\"scope\": ",
    str "\"https://www.googleapis.com", str "/auth/gmail.send\", ",
    str "\"write_origin\": \"authorize\", ",
    str "\"written_at\": 100\x7d"].flatten.flatMap CodePoint.utf8

/-- A key for the samples. -/
def sampleDek : Bytes := List.replicate 32 7

/-- A nonce for the samples. -/
def sampleNonce : Bytes := List.replicate 12 9

/-- The associated data of a token. -/
def sampleTag : Bytes := (str "gmail-gateway/keystore/v1/oauth_token").flatMap CodePoint.utf8

/-- The sample token, sealed. -/
def sampleSealedToken : SealedRecord where
  version := SendPath.SealedTokenStore.version
  recordType := SendPath.SealedTokenStore.recordType
  nonce := sampleNonce
  ciphertext := framed sampleDek ++ (framed sampleNonce ++ (framed sampleTag ++ sampleTokenText))

/-- A backend that holds it. -/
def sampleRecords : Records :=
  Function.update (fun _ => none) SendPath.SealedTokenStore.recordKey
    (some (sampleToken.record (str "authorize") sampleSealedToken))

/-- A provider that knows one token endpoint. -/
def sampleProvider : RefreshingTokenProvider where
  json := tabledJson [(sampleToken.blob (str "authorize"), sampleTokenText)]
  gcm := framedGcm
  library := { GmailSender.sampleLibrary with
    urlsplit := fun url =>
      if url = defaultTokenEndpoint then .ok (str "https", some (str "oauth2.googleapis.com"))
      else .error .valueError }
  client := { allow := oauthAllowHosts }
  allow_eq := oauthAllowHosts_eq
  skew_nonneg := by decide

theorem sampleProvider_splits : sampleProvider.EndpointSplits := by rfl

/-- The sample token opens wherever its text is parsed. -/
theorem opens_sampleRecords {json : JsonCodec PyVal Bytes}
    (hloads : json.loads sampleTokenText = .ok (sampleToken.blob (str "authorize"))) :
    ∃ record, Opens json framedGcm sampleDek sampleRecords record ∧
      sampleToken.blob (str "authorize") = .dict record :=
  ⟨_, ⟨_, sampleSealedToken, sampleTokenText, _, Function.update_self _ _ _,
    record_fromDict _ _ rfl (by rfl), by decide +kernel, hloads, rfl⟩, rfl⟩

theorem sampleTokenText_parses : sampleJson.loads sampleTokenText =
    .ok (sampleToken.blob (str "authorize")) :=
  sampleJson_loads_of_parse (by decide +kernel)

theorem sampleRecords_opens : ∃ record,
    Opens sampleProvider.json sampleProvider.gcm sampleDek sampleRecords record := by
  obtain ⟨record, hopens, -⟩ := @opens_sampleRecords sampleProvider.json
    sampleTokenText_parses
  exact ⟨record, hopens⟩

/-- The backend, the clock at `t`, and an endpoint that answers `answer`. -/
def refreshPerform (t : Int) (answer : EndpointAnswer) (s : Records) :
    (o : RefreshOp) → Except Exc o.Ret × Records
  | .record (.get key) => (.ok (s key), s)
  | .record (.put key value) => (.ok (), Function.update s key (some value))
  | .record (.keystore .getDek) => (.ok sampleDek, s)
  | .record (.keystore .nonce) => (.ok sampleNonce, s)
  | .now => (.ok t, s)
  | .post _ _ _ => (answer, s)

theorem refreshPerform_env (t : Int) (answer : EndpointAnswer) (s : Records) (o : RefreshOp) :
    refreshEnv sampleDek s o (refreshPerform t answer s o).1 (refreshPerform t answer s o).2 := by
  cases o with
  | record o =>
      cases o with
      | get | put => exact ⟨rfl, rfl⟩
      | keystore o =>
          cases o with
          | getDek => exact ⟨rfl, rfl⟩
          | nonce => exact ⟨⟨_, rfl, rfl⟩, rfl⟩
  | now => exact ⟨⟨t, rfl⟩, rfl⟩
  | post => rfl

/-- The same, under a sender whose mail goes through. -/
def refreshingPerform (t : Int) (answer : EndpointAnswer) (s : RefreshingState) :
    (o : RefreshingOp) → Except Exc o.Ret × RefreshingState
  | .gateway o =>
      ((GmailSender.wirePerform (.ok (200, [])) s.gateway (.gateway o)).1,
        { s with gateway := (GmailSender.wirePerform (.ok (200, [])) s.gateway (.gateway o)).2 })
  | .refresh o =>
      ((refreshPerform t answer s.records o).1,
        { s with records := (refreshPerform t answer s.records o).2 })
  | .post _ _ _ => (.ok (200, []), s)

theorem refreshingPerform_env (t : Int) (answer : EndpointAnswer) (s : RefreshingState)
    (o : RefreshingOp) : refreshingEnv sampleDek s o (refreshingPerform t answer s o).1
      (refreshingPerform t answer s o).2 := by
  cases o with
  | gateway o => exact ⟨GmailSender.wirePerform_env _ _ (.gateway o), rfl⟩
  | refresh o => exact ⟨refreshPerform_env t answer _ o, rfl⟩
  | post => rfl

/-- A confirmed proposal, its payload, and the token. -/
def sampleSender : RefreshingState where
  gateway := GmailSender.holdingPayload GmailSender.confirmedProposal GmailSender.samplePayload
  records := sampleRecords

theorem accessToken_failsClosed_sample :
    ∃ record, Opens sampleProvider.json sampleProvider.gcm sampleDek sampleRecords record ∧
      (∀ τ x records,
        Exec (refreshEnv sampleDek) sampleProvider.accessToken sampleRecords τ (.done x) records →
          (FailsClosed sampleRecords x records ↔
            ¬ sampleProvider.Escapes record (ticks τ) (endpointAnswers τ))) ∧
      ∀ θ r s', Exec (refreshingEnv sampleDek) (sampleProvider.dispatch samplePlatform
          GmailSender.sampleSenderConfig (str "p") 20) sampleSender θ (.done r) s' →
        refreshEvents θ ≠ [] → ∃ x,
          sampleProvider.Accessed sampleDek record sampleRecords (ticks (refreshEvents θ))
            (endpointAnswers (refreshEvents θ)) x s'.records ∧
          ((∃ token, x = .ok (.str token)) ∨
              Withheld (str "p") 20 GmailSender.confirmedProposal sampleSender θ r s' ↔
            ¬ sampleProvider.Escapes record (ticks (refreshEvents θ))
              (endpointAnswers (refreshEvents θ))) := by
  obtain ⟨record, hopens⟩ := sampleRecords_opens
  obtain ⟨hcall, hdispatch⟩ := accessToken_failsClosed (s := sampleSender) framedGcm_ideal rfl
    sampleProvider_splits hopens
  exact ⟨record, hopens, hcall, hdispatch samplePlatform GmailSender.sampleSenderConfig (str "p") 20
    GmailSender.confirmedProposal (by decide) rfl⟩

/-- A success whose scope is a number. -/
def scopeNumber : Bytes :=
  (str "\x7b\"access_token\": \"fresh\", \"scope\": 5\x7d").flatMap CodePoint.utf8

@[irreducible] def scopeNumberCall : List RefreshEvent × Outcome Exc PyVal × Records :=
  sampleProvider.accessToken.run (fun _ => refreshPerform 500 (.ok (200, scopeNumber))) 10
    sampleRecords

@[irreducible] def scopeNumberDispatch :
    List RefreshingEvent × Outcome Exc ProposalStatus × RefreshingState :=
  (sampleProvider.dispatch samplePlatform GmailSender.sampleSenderConfig (str "p") 20).run
    (fun _ => refreshingPerform 500 (.ok (200, scopeNumber))) 20 sampleSender

/-- `AttributeError`: a number has no `split`. The dispatch is settled as unknown, and nothing was
posted. -/
theorem accessToken_scopeNumber :
    (∃ record, Opens sampleProvider.json sampleProvider.gcm sampleDek sampleRecords record) ∧
    (∃ τ e records,
      Exec (refreshEnv sampleDek) sampleProvider.accessToken sampleRecords τ (.done (.error e)) records ∧
        (endpointAnswers τ).map Except.toOption = [some (200, scopeNumber)] ∧ ¬ e.IsOAuth) ∧
    ∃ θ s', Exec (refreshingEnv sampleDek) (sampleProvider.dispatch samplePlatform
        GmailSender.sampleSenderConfig (str "p") 20) sampleSender θ (.done (.ok .outcomeUnknown)) s' ∧
      (gmailPosts θ).length = 0 := by
  have hcall : Exec (refreshEnv sampleDek) sampleProvider.accessToken sampleRecords
      scopeNumberCall.1 scopeNumberCall.2.1 scopeNumberCall.2.2 := by
    unfold scopeNumberCall
    exact run_exec (fun _ => refreshPerform_env _ _) 10 _ _
  have hdispatch : Exec (refreshingEnv sampleDek) (sampleProvider.dispatch samplePlatform
      GmailSender.sampleSenderConfig (str "p") 20) sampleSender scopeNumberDispatch.1
        scopeNumberDispatch.2.1 scopeNumberDispatch.2.2 := by
    unfold scopeNumberDispatch
    exact run_exec (fun _ => refreshingPerform_env _ _) 20 _ _
  obtain ⟨hraised, hanswers⟩ : raisedOther scopeNumberCall.2.1 = true ∧
      (endpointAnswers scopeNumberCall.1).map Except.toOption = [some (200, scopeNumber)] := by
    decide +kernel
  obtain ⟨hreturned, hposts⟩ :
      GmailSender.settled? scopeNumberDispatch.2.1 = some .outcomeUnknown ∧
        (gmailPosts scopeNumberDispatch.1).length = 0 := by
    decide +kernel
  refine ⟨sampleRecords_opens, ⟨_, _, _, eq_of_raisedOther hraised ▸ hcall, hanswers, ?_⟩, _, _,
    GmailSender.settled?_eq_some hreturned ▸ hdispatch, hposts⟩
  exact Exc.not_isOAuth fun _ _ h => by cases h

end RefreshingTokenProvider

end GmailGateway
