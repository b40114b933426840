import GmailGateway.Gateway.RefreshingSender
import GmailGateway.Python.Dumps

/-!
# GmailGateway.Gateway.RefreshRuns

**Refreshing keeps the credential refreshable.** A refresh merges the fields of a response into the
sealed record, field by field, with the truthiness of a field as the fallback. What the record holds
after any number of calls is a function of the responses of the successful ones (`Kept`), as long as
every refresh token that is not falsy is a string: nothing checks that, and a number that was stored
once is found out by the next refresh.

The record is sealed as JSON and read back, so the merged fields have to survive that.
-/

namespace GmailGateway

open Effect Proc Python

/-! ### Values that survive JSON -/

namespace Python.PyVal

mutual

/-- A value that a JSON text stands for: no string has the two halves of a surrogate pair next to
each other, which would be read back as one character, and the keys of an object are distinct. -/
def carried : PyVal → Bool
  | .str s => Json.unpaired s
  | .list xs => carriedItems xs
  | .dict members => carriedMembers members
  | _ => true

def carriedItems : List PyVal → Bool
  | [] => true
  | x :: xs => carried x && carriedItems xs

def carriedMembers : List (PyStr × PyVal) → Bool
  | [] => true
  | (key, v) :: members =>
      Json.unpaired key && !Dict.contains members key && carried v && carriedMembers members

end

theorem carriedMembers_iff {members : Dict} : carriedMembers members = true ↔
    (members.map (·.1)).Nodup ∧ ∀ m ∈ members, Json.unpaired m.1 = true ∧ m.2.carried = true := by
  induction members with
  | nil => simp [carriedMembers]
  | cons m members ih =>
      obtain ⟨key, v⟩ := m
      have hcontains : Dict.contains members key = true ↔ key ∈ members.map (·.1) := by
        simp only [Dict.contains, List.any_eq_true, decide_eq_true_eq, List.mem_map]
      have hfresh : (!Dict.contains members key) = true ↔ key ∉ members.map (·.1) := by
        rw [← hcontains, Bool.not_eq_true', Bool.not_eq_true]
      simp only [carriedMembers, Bool.and_eq_true, hfresh, ih, List.map_cons, List.nodup_cons,
        List.forall_mem_cons]
      constructor
      · rintro ⟨⟨⟨hkey, hnew⟩, hv⟩, hnodup, hmembers⟩
        exact ⟨⟨hnew, hnodup⟩, ⟨hkey, hv⟩, hmembers⟩
      · rintro ⟨⟨hnew, hnodup⟩, ⟨hkey, hv⟩, hmembers⟩
        exact ⟨⟨⟨hkey, hnew⟩, hv⟩, hnodup, hmembers⟩

theorem carried_get? {members : Dict} {key : PyStr} {v : PyVal} (h : carriedMembers members = true)
    (hv : members.get? key = some v) : v.carried = true := by
  obtain ⟨before, after, rfl, -⟩ := List.lookup_eq_some_iff.mp hv
  exact ((carriedMembers_iff.mp h).2 (key, v) (by simp)).2

theorem carried_get {members : Dict} (h : (PyVal.dict members).carried = true) (key : PyStr) :
    (members.get key).carried = true := by
  rw [Dict.get]
  cases hget : members.get? key with
  | none => rfl
  | some v => exact carried_get? h hget

end Python.PyVal

/-- What `json` promises: what was parsed can be written and parsed again. -/
structure JsonCodec.Carries (json : JsonCodec PyVal Bytes) : Prop where
  carried {text : Bytes} {v : PyVal} : json.loads text = .ok v → v.carried = true
  roundTrips {text : Bytes} {v : PyVal} : v.carried = true → json.dumps v = .ok text →
    json.loads text = .ok v

namespace RefreshingTokenProvider

/-! ### What a response is good for -/

/-- An object that a refresh goes through with: a token, and no scope or the allowed one. -/
structure Usable (data : Dict) : Prop where
  accessToken : ∃ token, Dict.get data (str "access_token") = .str token
  scope : Dict.get data (str "scope") = .none ∨
    ∃ scope, Dict.get data (str "scope") = .str scope ∧ grantsV1Scopes scope = true

/-- Every refresh token in a usable response is falsy or a string. -/
def Typed (loads : Bytes → Except Exc PyVal) : EndpointAnswer → Prop
  | .ok (status, body) => 200 ≤ status ∧ status < 300 → ∀ data, loads body = .ok (.dict data) →
      Usable data → (Dict.get data (str "refresh_token")).truthy = false ∨
        ∃ token, Dict.get data (str "refresh_token") = .str token
  | .error _ => True

section Response
variable {loads : Bytes → Except Exc PyVal} {a : Int × Bytes} {result : TokenResult}

theorem checkScope_eq_ok {result' : TokenResult} (h : checkScope result = .ok result') :
    result' = result ∧ (result.scope = .none ∨
      ∃ scope, result.scope = .str scope ∧ grantsV1Scopes scope = true) := by
  unfold checkScope at h
  split at h
  · rename_i hscope
    cases h
    exact ⟨rfl, .inl hscope⟩
  · rename_i scope hscope
    split at h
    · rename_i hgrants
      cases h
      exact ⟨rfl, .inr ⟨scope, hscope, hgrants⟩⟩
    · cases h
  · cases h

/-- What a result is read from. -/
theorem readResponse_usable (h : readResponse loads (responseOf a) = .ok result) :
    (200 ≤ a.1 ∧ a.1 < 300) ∧ ∃ data, loads a.2 = .ok (.dict data) ∧ Usable data ∧
      Dict.get data (str "access_token") = .str result.accessToken ∧
      Dict.get data (str "refresh_token") = result.refreshToken ∧
      Dict.get data (str "scope") = result.scope := by
  unfold readResponse at h
  split at h
  · split at h <;> cases h
  · rename_i hstatus
    refine ⟨not_not.mp hstatus, ?_⟩
    have hread : readSuccess loads a.2 = .ok result := h
    rw [readSuccess] at hread
    split at hread
    · cases hread
    · cases hread
    · rename_i result' hfrom
      obtain ⟨rfl, hscope⟩ := checkScope_eq_ok hread
      cases hloads : loads a.2 with
      | error e =>
          rw [TokenResult.fromResponse, hloads] at hfrom
          dsimp only at hfrom
          split at hfrom <;> cases hfrom
      | ok v =>
          by_cases hobject : ∃ data token, v = .dict data ∧
              Dict.get data (str "access_token") = .str token
          · obtain ⟨data, token, rfl, htoken⟩ := hobject
            obtain ⟨result', hfrom', haccess, hrefresh, hscope'⟩ :=
              fromResponse_object hloads htoken
            cases hfrom.symm.trans hfrom'
            refine ⟨data, rfl, ⟨⟨token, htoken⟩, ?_⟩, htoken.trans (congrArg _ haccess.symm),
              hrefresh.symm, hscope'.symm⟩
            rw [← hscope']
            exact hscope
          · obtain ⟨m, hm⟩ := fromResponse_refused (.inr ⟨v, hloads, fun data token hv htoken =>
              hobject ⟨data, token, hv, htoken⟩⟩)
            cases hfrom.symm.trans hm

/-- A response asks for a new authorization by its status alone. -/
theorem readResponse_reauthorize {m : PyStr}
    (h : readResponse loads (responseOf a) = .error (.oauth .reauthorizationRequired m)) :
    a.1 = 400 := by
  unfold readResponse at h
  split at h
  · split at h
    · rename_i hstatus
      exact hstatus
    · cases h
  · have hread : readSuccess loads a.2 = .error (.oauth .reauthorizationRequired m) := h
    rw [readSuccess] at hread
    split at hread
    · cases hread
    · rename_i e hno _
      cases hread
      exact absurd rfl (hno _ _)
    · unfold checkScope at hread
      split at hread
      · cases hread
      · split at hread <;> cases hread
      · cases hread

end Response

/-! ### What a call did to the record -/

/-- A refresh that went through: what it returned, and what it merged into the record. -/
structure Refresh where
  returned : PyVal
  result : TokenResult
  refreshedAt : Int

/-- A call of `access_token` in a session. -/
abbrev RefreshCall := Call RefreshSig Exc PyVal Unit

/-- What a call refreshed: what it returned, what the response said, and when. Nothing if it asked
nobody or failed. -/
def refreshed? (loads : Bytes → Except Exc PyVal) (call : RefreshCall) : Option Refresh :=
  match call.outcome, endpointAnswers call.events, (ticks call.events).getLast? with
  | .done (.ok returned), [.ok a], some refreshedAt =>
      (readResponse loads (responseOf a)).toOption.map fun result =>
        { returned, result, refreshedAt }
  | _, _, _ => none

/-- The successful refreshes, oldest first. -/
def refreshes (loads : Bytes → Except Exc PyVal) (calls : List RefreshCall) : List Refresh :=
  calls.filterMap (refreshed? loads)

theorem refreshes_concat (loads : Bytes → Except Exc PyVal) (calls : List RefreshCall)
    (call : RefreshCall) : refreshes loads (calls ++ [call]) =
      refreshes loads calls ++ (refreshed? loads call).toList := by
  rw [refreshes, List.filterMap_append, List.filterMap_cons]
  cases refreshed? loads call <;> rfl

/-- The refresh token that a response supplied, unless it is empty. -/
def supplied? (refresh : Refresh) : Option PyStr :=
  match refresh.result.refreshToken with
  | .str (c :: cs) => some (c :: cs)
  | _ => none

/-- The last refresh token that was supplied, or else the original one. -/
def lastToken (original : Dict) (done : List Refresh) : PyVal :=
  match (done.filterMap supplied?).getLast? with
  | some token => .str token
  | none => original.get (str "refresh_token")

/-- The response time plus `expires_in`, where it was given. -/
def Refresh.expiresAt (refresh : Refresh) : PyVal :=
  match refresh.result.expiresIn with
  | some expiresIn => .int (refresh.refreshedAt + expiresIn)
  | none => .none

/-- A scope string that grants the v1 scopes. -/
def IsGmailScope (v : PyVal) : Prop := ∃ scope, v = .str scope ∧ grantsV1Scopes scope = true

/-- What the last refresh left, from which the next one is made. -/
structure LeftBy (refresh : Refresh) (record : Dict) : Prop where
  accessToken : record.get (str "access_token") = refresh.returned
  refreshToken : ∃ token, record.get (str "refresh_token") = .str token ∧ token ≠ []
  expiresAt : record.get (str "expires_at") = refresh.expiresAt
  inputs : ∃ inputs, refreshInputs record = .ok inputs

/-- What the record holds after the refreshes `done`. -/
structure Kept (original : Dict) (done : List Refresh) (record : Dict) : Prop where
  refreshToken : record.get (str "refresh_token") = lastToken original done
  clientId : record.get (str "client_id") = original.get (str "client_id")
  clientSecret : record.get (str "client_secret") = original.get (str "client_secret")
  scope : IsGmailScope (original.get (str "scope")) → IsGmailScope (record.get (str "scope"))
  left : ∀ refresh, done.getLast? = some refresh → LeftBy refresh record

theorem Kept.refl (original : Dict) : Kept original [] original where
  refreshToken := rfl
  clientId := rfl
  clientSecret := rfl
  scope := id
  left _ h := by cases h

/-- `v or w` of refresh tokens that are falsy or strings. -/
theorem lastToken_concat {original : Dict} {done : List Refresh} {refresh : Refresh}
    (htyped : refresh.result.refreshToken.truthy = false ∨
      ∃ token, refresh.result.refreshToken = .str token) :
    lastToken original (done ++ [refresh]) =
      SendPath.SealedTokenStore.orElse refresh.result.refreshToken (lastToken original done) := by
  rw [lastToken, List.filterMap_append]
  by_cases hsupplied : ∃ c cs, refresh.result.refreshToken = .str (c :: cs)
  · obtain ⟨c, cs, htoken⟩ := hsupplied
    have hsome : supplied? refresh = some (c :: cs) := by rw [supplied?, htoken]
    rw [List.filterMap_cons_some hsome, List.filterMap_nil, List.getLast?_concat,
      SendPath.SealedTokenStore.orElse, htoken]
    rfl
  · have hnone : supplied? refresh = none := by
      unfold supplied?
      split
      · rename_i c cs htoken
        exact absurd ⟨c, cs, htoken⟩ hsupplied
      · rfl
    have hfalsy : refresh.result.refreshToken.truthy = false := by
      rcases htyped with hfalsy | ⟨token, htoken⟩
      · exact hfalsy
      · cases token with
        | nil =>
            rw [htoken]
            rfl
        | cons c cs => exact absurd ⟨c, cs, htoken⟩ hsupplied
    rw [List.filterMap_cons_none hnone, List.filterMap_nil, List.append_nil,
      SendPath.SealedTokenStore.orElse, if_neg (by rw [hfalsy]; decide), lastToken]

section Step
variable {provider : RefreshingTokenProvider} {dek : Bytes} {original record : Dict}
  {s : Records} {done : List Refresh}

/-- The fields of what is sealed. -/
theorem blob_fields {token : SendPath.SealedTokenStore.Token} {writeOrigin : PyStr} {members : Dict}
    (h : token.blob writeOrigin = .dict members) :
    members.get (str "access_token") = token.accessToken ∧
      members.get (str "refresh_token") = token.refreshToken ∧
      members.get (str "expires_at") = token.expiresAt ∧
      members.get (str "client_id") = token.clientId ∧
      members.get (str "client_secret") = token.clientSecret ∧
      members.get (str "scope") = token.scope := by
  cases h
  exact ⟨rfl, rfl, rfl, rfl, rfl, rfl⟩

theorem blob_carried {token : SendPath.SealedTokenStore.Token} {writeOrigin : PyStr}
    (haccess : token.accessToken.carried = true) (hrefresh : token.refreshToken.carried = true)
    (hissued : token.issuedAt.carried = true) (hexpires : token.expiresAt.carried = true)
    (hid : token.clientId.carried = true) (hsecret : token.clientSecret.carried = true)
    (hscope : token.scope.carried = true) (horigin : Json.unpaired writeOrigin = true) :
    (token.blob writeOrigin).carried = true := by
  rw [SendPath.SealedTokenStore.Token.blob, PyVal.carried]
  refine PyVal.carriedMembers_iff.mpr ⟨?_, ?_⟩
  · change [str "access_token", str "refresh_token", str "issued_at", str "expires_at",
      str "client_id", str "client_secret", str "scope", str "write_origin",
      str "written_at"].Nodup
    decide
  · simp only [List.forall_mem_cons]
    exact ⟨⟨by decide, haccess⟩, ⟨by decide, hrefresh⟩, ⟨by decide, hissued⟩,
      ⟨by decide, hexpires⟩, ⟨by decide, hid⟩, ⟨by decide, hsecret⟩, ⟨by decide, hscope⟩,
      ⟨by decide, horigin⟩, ⟨by decide, hissued⟩, fun _ h => absurd h List.not_mem_nil⟩

open SendPath.SealedTokenStore in
/-- A refreshed record passes the checks of its opening. -/
theorem checkToken_refreshed {token : Token} {accessToken : PyStr} {issuedAt : Int}
    (haccess : token.accessToken = .str accessToken) (hissued : token.issuedAt = .int issuedAt)
    (r : SealedRecord) : ∃ members, token.blob (str "refresh") = .dict members ∧
      checkToken (token.record (str "refresh") r) (token.blob (str "refresh")) = .ok members := by
  obtain ⟨_, _, _, _, _, _, _⟩ := token
  cases haccess
  cases hissued
  have hwritten : (PyVal.int issuedAt).pyEq (.int issuedAt) = true := by
    simp [PyVal.pyEq, PyVal.numberEq, PyVal.number?]
  refine ⟨_, rfl, ?_⟩
  change (if (PyVal.int issuedAt).pyEq (.int issuedAt) = false then Except.error _ else .ok ()) >>=
    _ = _
  rw [hwritten]
  rfl

/-- What was opened was parsed. -/
theorem opens_carried (hcodec : provider.json.Carries)
    (h : Opens provider.json provider.gcm dek s record) : (PyVal.dict record).carried = true := by
  obtain ⟨raw, r, plaintext, v, -, -, -, hloads, hcheck⟩ := h
  obtain ⟨data, hdata, hbody⟩ := bind_eq_ok.mp hcheck
  obtain rfl := expectDict_eq_ok.mp hdata
  split at hbody
  · obtain ⟨_, -, hbody⟩ := bind_eq_ok.mp hbody
    obtain ⟨_, -, hrecord⟩ := bind_eq_ok.mp hbody
    cases hrecord
    exact hcodec.carried hloads
  · cases hbody

theorem orElse_carried {v w : PyVal} (hv : v.carried = true) (hw : w.carried = true) :
    (SendPath.SealedTokenStore.orElse v w).carried = true := by
  rw [SendPath.SealedTokenStore.orElse]
  split
  · exact hv
  · exact hw

/-- The merged record can be sealed and opened again. -/
theorem merged_opens (hcodec : provider.json.Carries) (hideal : provider.gcm.IdealAead)
    (hdek : dek.length = dekLen) (hopens : Opens provider.json provider.gcm dek s record)
    {a : Int × Bytes} {result : TokenResult}
    (hread : readResponse provider.json.loads (responseOf a) = .ok result) {refreshedAt : Int}
    {plaintext : Bytes}
    (hdumps : provider.json.dumps ((merged record result refreshedAt).blob (str "refresh")) =
      .ok plaintext) {r : SealedRecord}
    (hseals : SealedUnder provider.gcm dek plaintext SendPath.SealedTokenStore.recordType
      SendPath.SealedTokenStore.version r) :
    ∃ members, (merged record result refreshedAt).blob (str "refresh") = .dict members ∧
      Opens provider.json provider.gcm dek (Function.update s SendPath.SealedTokenStore.recordKey
        (some ((merged record result refreshedAt).record (str "refresh") r))) members := by
  obtain ⟨htype, hversion, hnonce, tag, htag, hencrypt⟩ := hseals
  obtain ⟨members, hblob, hcheck⟩ := checkToken_refreshed
    (show (merged record result refreshedAt).accessToken = .str result.accessToken from rfl) rfl r
  obtain ⟨-, data, hloads, -, htoken, hrefresh, hscope⟩ := readResponse_usable hread
  have hdata := PyVal.carried_get (hcodec.carried hloads)
  have hrecord := PyVal.carried_get (opens_carried hcodec hopens)
  have hexpires : (merged record result refreshedAt).expiresAt.carried = true := by
    rw [merged]
    dsimp only
    split <;> rfl
  have hcarried : ((merged record result refreshedAt).blob (str "refresh")).carried = true := by
    refine blob_carried ?_ ?_ rfl hexpires (hrecord _) (hrecord _) ?_ (by decide)
    · exact (congrArg PyVal.carried htoken).symm.trans (hdata _)
    · exact orElse_carried (hrefresh ▸ hdata _) (hrecord _)
    · exact orElse_carried (hscope ▸ hdata _) (hrecord _)
  have hdecrypted : r.decrypted? provider.gcm dek = some plaintext := by
    rw [SealedRecord.decrypted?, if_neg (not_not.mpr hdek), htype, hversion, htag]
    exact hideal.roundTrips dek r.nonce plaintext tag r.ciphertext hencrypt
  refine ⟨members, hblob, _, r, plaintext, _, Function.update_self _ _ _, ?_, hdecrypted,
    hcodec.roundTrips hcarried hdumps, hcheck⟩
  exact record_fromDict _ _ hnonce (by rw [htype, hversion]; exact htag)

/-- A request can be made of strings only. -/
theorem requestBody_inputs {body : Bytes} (h : requestBody record = .ok body) :
    ∃ refreshToken clientId clientSecret,
      refreshInputs record = .ok (refreshToken, clientId, clientSecret) ∧ refreshToken ≠ [] := by
  obtain ⟨⟨refreshToken, clientId, clientSecret⟩, hinputs, -⟩ := bind_eq_ok.mp h
  refine ⟨refreshToken, clientId, clientSecret, hinputs, fun hempty => ?_⟩
  exact requestBody_ok h ⟨_, _, _, hinputs, .inl hempty⟩

/-- What the inputs are read from. -/
theorem refreshInputs_eq_ok {refreshToken clientId : PyStr} {clientSecret : Option PyStr} :
    refreshInputs record = .ok (refreshToken, clientId, clientSecret) ↔
      record.get (str "refresh_token") = .str refreshToken ∧
        record.get (str "client_id") = .str clientId ∧
          record.get (str "client_secret") = (clientSecret.map PyVal.str).getD .none := by
  unfold refreshInputs
  constructor
  · intro h
    split at h
    · rename_i htoken hid
      split at h
      · rename_i hsecret
        cases h
        exact ⟨htoken, hid, hsecret⟩
      · rename_i hsecret
        cases h
        exact ⟨htoken, hid, hsecret⟩
      · cases h
    · cases h
  · rintro ⟨htoken, hid, hsecret⟩
    rw [htoken, hid, hsecret]
    cases clientSecret <;> rfl

theorem refreshed?_unasked {loads : Bytes → Except Exc PyVal} {call : RefreshCall}
    (h : endpointAnswers call.events = []) : refreshed? loads call = none := by
  unfold refreshed?
  rw [h]
  split
  · rename_i heq _
    cases heq
  · rfl

theorem refreshed?_answered {loads : Bytes → Except Exc PyVal} {events : List RefreshEvent}
    {returned : PyVal} {a : Int × Bytes} {result : TokenResult} {now : List Int} {refreshedAt : Int}
    (hanswers : endpointAnswers events = [.ok a]) (hticks : ticks events = now ++ [refreshedAt])
    (hread : readResponse loads (responseOf a) = .ok result) :
    refreshed? loads ⟨(), events, .done (.ok returned)⟩ = some ⟨returned, result, refreshedAt⟩ := by
  unfold refreshed?
  dsimp only
  rw [hanswers, hticks, List.getLast?_concat]
  dsimp only
  rw [hread]
  rfl

/-- What was merged is what the record holds after one refresh more. -/
theorem Kept.merge (hkept : Kept original done record) {body : Bytes}
    (hbody : requestBody record = .ok body) {a : Int × Bytes} {result : TokenResult}
    {refreshedAt : Int} (hread : readResponse provider.json.loads (responseOf a) = .ok result)
    (htyped : Typed provider.json.loads (.ok a)) {members : Dict}
    (hblob : (merged record result refreshedAt).blob (str "refresh") = .dict members) :
    Kept original (done ++ [⟨.str result.accessToken, result, refreshedAt⟩]) members := by
  obtain ⟨hstatus, data, hloads, husable, -, hrefresh, hscope⟩ := readResponse_usable hread
  have hstring := htyped hstatus data hloads husable
  rw [hrefresh] at hstring
  obtain ⟨haccess, htoken, hexpires, hid, hsecret, hscope'⟩ := blob_fields hblob
  obtain ⟨token, clientId, clientSecret, hinputs, hne⟩ := requestBody_inputs hbody
  obtain ⟨htoken₀, hid₀, hsecret₀⟩ := refreshInputs_eq_ok.mp hinputs
  -- what is stored is a string that is not empty, whichever of the two it is
  have hnext : ∃ next, members.get (str "refresh_token") = .str next ∧ next ≠ [] := by
    rw [htoken]
    change ∃ next, SendPath.SealedTokenStore.orElse result.refreshToken
      (record.get (str "refresh_token")) = .str next ∧ next ≠ []
    rw [SendPath.SealedTokenStore.orElse, htoken₀]
    split
    · rename_i htruthy
      rcases hstring with hfalsy | ⟨next, hnext⟩
      · cases hfalsy.symm.trans htruthy
      · refine ⟨next, hnext, fun hempty => ?_⟩
        rw [hnext, hempty] at htruthy
        cases htruthy
    · exact ⟨token, rfl, hne⟩
  refine ⟨?_, hid.trans hkept.clientId, hsecret.trans hkept.clientSecret, fun horiginal => ?_, ?_⟩
  · rw [htoken, lastToken_concat hstring, ← hkept.refreshToken]
    rfl
  · rw [hscope']
    change IsGmailScope (SendPath.SealedTokenStore.orElse result.scope (record.get (str "scope")))
    rw [SendPath.SealedTokenStore.orElse]
    split
    · rename_i htruthy
      rcases husable.scope with hnone | hscope''
      · rw [← hscope, hnone] at htruthy
        cases htruthy
      · exact hscope ▸ hscope''
    · exact hkept.scope horiginal
  · intro refresh hlast
    rw [List.getLast?_concat] at hlast
    cases hlast
    obtain ⟨next, hnext, hne'⟩ := hnext
    refine ⟨haccess, ⟨next, hnext, hne'⟩, hexpires, ⟨(next, clientId, clientSecret), ?_⟩⟩
    exact refreshInputs_eq_ok.mpr ⟨hnext, hid.trans hid₀, hsecret.trans hsecret₀⟩

/-- **One call** keeps the record, or merges into it. -/
theorem Accessed.kept (hcodec : provider.json.Carries) (hideal : provider.gcm.IdealAead)
    (hdek : dek.length = dekLen) (hopens : Opens provider.json provider.gcm dek s record)
    (hkept : Kept original done record) {events : List RefreshEvent} {x : Except Exc PyVal}
    {s' : Records}
    (h : provider.Accessed dek record s (ticks events) (endpointAnswers events) x s')
    (htyped : ∀ a ∈ endpointAnswers events, Typed provider.json.loads a) :
    ∃ record', Opens provider.json provider.gcm dek s' record' ∧
      Kept original (done ++ (refreshed? provider.json.loads ⟨(), events, .done x⟩).toList)
        record' := by
  have hsame : refreshed? provider.json.loads ⟨(), events, .done x⟩ = none →
      Kept original (done ++ (refreshed? provider.json.loads ⟨(), events, .done x⟩).toList)
        record := by
    intro hnone
    rw [hnone]
    exact (List.append_nil done).symm ▸ hkept
  generalize hticks : ticks events = now at h
  generalize hanswers : endpointAnswers events = answers at h htyped
  cases h with
  | fresh => exact ⟨record, hopens, hsame (refreshed?_unasked hanswers)⟩
  | unasked | unanswered | unusable | unstored => exact ⟨record, hopens, hsame rfl⟩
  | refreshed _ hbody hread hdumps hseals =>
      obtain ⟨members, hblob, hopens'⟩ :=
        merged_opens hcodec hideal hdek hopens hread hdumps hseals
      refine ⟨members, hopens', ?_⟩
      rw [refreshed?_answered hanswers hticks hread]
      exact hkept.merge hbody hread (htyped _ List.mem_cons_self) hblob

/-- With its inputs there, it is the form that cannot be made. -/
theorem requestBody_gap {inputs : PyStr × PyStr × Option PyStr}
    (hinputs : refreshInputs record = .ok inputs) {e : Exc} (h : requestBody record = .error e) :
    RequestGap record := by
  obtain ⟨refreshToken, clientId, clientSecret⟩ := inputs
  refine ⟨refreshToken, clientId, clientSecret, hinputs, ?_⟩
  rw [requestBody, hinputs] at h
  rcases form_cases refreshToken clientId clientSecret with ⟨hformless, -⟩ | ⟨-, body, hok⟩
  · exact hformless
  · cases hok.symm.trans h

/-- A record with its inputs asks for a new authorization only if the provider does. -/
theorem Accessed.reauthorize (hdumps : ∀ v e, provider.json.dumps v = .error e → ¬ e.IsOAuth)
    {inputs : PyStr × PyStr × Option PyStr} (hinputs : refreshInputs record = .ok inputs)
    {now : List Int} {answers : List EndpointAnswer} {m : PyStr} {s' : Records}
    (h : provider.Accessed dek record s now answers (.error (.oauth .reauthorizationRequired m)) s')
    (htransport : ∀ e, .error e ∈ answers → ¬ e.IsOAuth) :
    ∃ body, .ok (400, body) ∈ answers := by
  generalize hraised : Exc.oauth .reauthorizationRequired m = raised at h
  generalize hx : (Except.error raised : Except Exc PyVal) = x at h
  cases h with
  | fresh | refreshed => cases hx
  | unasked _ hbody =>
      cases hx
      exact absurd (requestBody_gap hinputs hbody)
        ((requestBody_error hbody).mp ⟨_, _, hraised.symm⟩)
  | @unanswered _ _ e _ hbody =>
      cases hx
      refine absurd ?_ (htransport e List.mem_cons_self)
      cases e with
      | oauth c m' => exact ⟨c, m', rfl⟩
      | _ => cases hraised
  | @unusable _ _ a _ _ _ hread =>
      cases hx
      cases hraised
      obtain ⟨status, body⟩ := a
      obtain rfl : status = 400 := readResponse_reauthorize hread
      exact ⟨body, List.mem_cons_self⟩
  | unstored _ _ _ herror =>
      cases hx
      exact absurd ⟨_, _, hraised.symm⟩ (hdumps _ _ herror)

end Step

/-! ### Sequences of calls -/

/-- A call that ended, on answers whose refresh tokens are falsy or strings. -/
def Ended (loads : Bytes → Except Exc PyVal) (call : RefreshCall) : Prop :=
  (∃ x, call.outcome = .done x) ∧ ∀ a ∈ endpointAnswers call.events, Typed loads a

/-- **Refreshing keeps the credential refreshable.** After any number of calls on such answers, the
record opens and holds what the successful refreshes merged into it. From the first of them on, a
call asks for a new authorization only if the endpoint answered 400. -/
theorem session_refreshable {provider : RefreshingTokenProvider} {dek : Bytes} {original : Dict}
    {s₀ s : Records} (hcodec : provider.json.Carries)
    (hdumps : ∀ v e, provider.json.dumps v = .error e → ¬ e.IsOAuth)
    (hideal : provider.gcm.IdealAead) (hdek : dek.length = dekLen)
    (hsplit : provider.EndpointSplits)
    (hopens : Opens provider.json provider.gcm dek s₀ original) {calls : List RefreshCall}
    (h : Session (refreshEnv dek) (fun _ => provider.accessToken) (Ended provider.json.loads) s₀
      calls s) :
    ∃ record, Opens provider.json provider.gcm dek s record ∧
      Kept original (refreshes provider.json.loads calls) record ∧
      (refreshes provider.json.loads calls ≠ [] → ∀ τ m s', Exec (refreshEnv dek)
          provider.accessToken s τ (.done (.error (.oauth .reauthorizationRequired m))) s' →
        (∀ e, .error e ∈ endpointAnswers τ → ¬ e.IsOAuth) →
          ∃ body, .ok (400, body) ∈ endpointAnswers τ) := by
  have hrun : ∃ record, Opens provider.json provider.gcm dek s record ∧
      Kept original (refreshes provider.json.loads calls) record := by
    induction h with
    | start => exact ⟨original, hopens, Kept.refl original⟩
    | @call calls s k τ out s' _ hexec hended ih =>
        obtain ⟨record, hrecord, hkept⟩ := ih
        obtain ⟨⟨x, rfl⟩, htyped⟩ := hended
        have haccessed := hexec.post (accessToken_meets hideal hdek hsplit hrecord)
        have hafter := haccessed.kept hcodec hideal hdek hrecord hkept htyped
        rw [refreshes_concat]
        exact hafter
  obtain ⟨record, hrecord, hkept⟩ := hrun
  refine ⟨record, hrecord, hkept, fun hsome τ m s' hexec htransport => ?_⟩
  obtain ⟨inputs, hinputs⟩ := (hkept.left _ (List.getLast?_eq_some_getLast hsome)).inputs
  have haccessed := hexec.post (accessToken_meets hideal hdek hsplit hrecord)
  exact haccessed.reauthorize hdumps hinputs htransport

/-! ### Two refreshes -/

/-- The JSON texts of some values. -/
def listedJson (texts : List (PyVal × Bytes)) : JsonCodec PyVal Bytes where
  dumps v :=
    match texts.lookup v with
    | some text => .ok text
    | none => .error .valueError
  loads text :=
    match texts.find? (·.2 = text) with
    | some (v, _) => .ok v
    | none => .error .valueError

theorem listedJson_loads {texts : List (PyVal × Bytes)} {text : Bytes} {v : PyVal}
    (h : (listedJson texts).loads text = .ok v) : (v, text) ∈ texts := by
  dsimp only [listedJson] at h
  split at h
  · rename_i w text' hfind
    cases h
    obtain rfl : text' = text := by simpa using List.find?_some hfind
    exact List.mem_of_find?_eq_some hfind
  · cases h

theorem listedJson_carries {texts : List (PyVal × Bytes)}
    (hcarried : ∀ e ∈ texts, e.1.carried = true)
    (hdistinct : ∀ e ∈ texts, ∀ e' ∈ texts, e.2 = e'.2 → e.1 = e'.1) :
    (listedJson texts).Carries where
  carried h := hcarried _ (listedJson_loads h)
  roundTrips {text v} _ hdumps := by
    dsimp only [listedJson] at hdumps
    split at hdumps
    · rename_i text' hlookup
      cases hdumps
      obtain ⟨before, after, rfl, -⟩ := List.lookup_eq_some_iff.mp hlookup
      have hmem : (v, text) ∈ before ++ (v, text) :: after := by simp
      cases hloads : (listedJson (before ++ (v, text) :: after)).loads text with
      | ok w => exact congrArg Except.ok (hdistinct _ (listedJson_loads hloads) _ hmem rfl)
      | error e =>
          dsimp only [listedJson] at hloads
          split at hloads
          · cases hloads
          · rename_i hfind
            exact absurd (List.find?_eq_none.mp hfind _ hmem) (by simp)
    · cases hdumps

/-- A response that rotates the refresh token. -/
def rotatingResponse : PyVal :=
  .dict [(str "access_token", .str (str "fresh")), (str "expires_in", .int 3599),
    (str "refresh_token", .str (str "1//next"))]

/-- A response that rotates the refresh token. -/
def rotatingText : Bytes :=
  [str "\x7b\"access_token\": \"fresh\", ", str "\"expires_in\": 3599, ",
    str "\"refresh_token\": \"1//next\"\x7d"].flatten.flatMap CodePoint.utf8

/-- What it leaves of the sample token at 500. -/
def rotatedToken : SendPath.SealedTokenStore.Token :=
  { sampleToken with
    accessToken := .str (str "fresh"), refreshToken := .str (str "1//next"), issuedAt := .int 500
    expiresAt := .int 4099 }

@[irreducible] def rotatedTokenText : Bytes :=
  [str "\x7b\"access_token\": \"fresh\", ", str "\"refresh_token\": \"1//next\", ",
    str "\"issued_at\": 500, ", str "\"expires_at\": 4099, ", str "\"client_id\": \"cid.apps\", ",
    str "\"client_secret\": null, ", str "\"scope\": ",
    str "\"https://www.googleapis.com", str "/auth/gmail.send\", ",
    str "\"write_origin\": \"refresh\", ",
    str "\"written_at\": 500\x7d"].flatten.flatMap CodePoint.utf8

/-- A provider that can read and write what the rotation needs. -/
def rotatingProvider : RefreshingTokenProvider :=
  { sampleProvider with
    json := listedJson [(sampleToken.blob (str "authorize"), sampleTokenText),
      (rotatingResponse, rotatingText), (rotatedToken.blob (str "refresh"), rotatedTokenText)] }

theorem rotatingProvider_carries : rotatingProvider.json.Carries :=
  listedJson_carries (by decide +kernel) (by decide +kernel)

theorem rotatingProvider_loads :
    rotatingProvider.json.loads sampleTokenText = .ok (sampleToken.blob (str "authorize")) ∧
      rotatingProvider.json.loads rotatingText = .ok rotatingResponse := by
  have hfind : ∀ {texts : List (PyVal × Bytes)} {text : Bytes} {v : PyVal},
      (texts.find? (·.2 = text)) = some (v, text) → (listedJson texts).loads text = .ok v := by
    intro texts text v h
    dsimp only [listedJson]
    rw [h]
  exact ⟨hfind (by decide +kernel), hfind (by decide +kernel)⟩

/-- What a call returned. -/
def returned? : Outcome Exc PyVal → Option PyVal
  | .done (.ok v) => some v
  | _ => none

theorem returned?_eq_some {out : Outcome Exc PyVal} {v : PyVal} (h : returned? out = some v) :
    out = .done (.ok v) := by
  unfold returned? at h
  split at h
  · cases h
    rfl
  · cases h

/-- A refresh that rotates. -/
@[irreducible] def rotatingCall : List RefreshEvent × Outcome Exc PyVal × Records :=
  rotatingProvider.accessToken.run (fun _ => refreshPerform 500 (.ok (200, rotatingText))) 20
    sampleRecords

theorem rotatingCall_session :
    Session (refreshEnv sampleDek) (fun _ => rotatingProvider.accessToken)
      (Ended rotatingProvider.json.loads) sampleRecords [⟨(), rotatingCall.1, rotatingCall.2.1⟩]
      rotatingCall.2.2 := by
  have hexec : Exec (refreshEnv sampleDek) rotatingProvider.accessToken sampleRecords
      rotatingCall.1 rotatingCall.2.1 rotatingCall.2.2 := by
    unfold rotatingCall
    exact run_exec (fun _ => refreshPerform_env _ _) 20 _ _
  obtain ⟨hreturned, hanswers⟩ :
      returned? rotatingCall.2.1 = some (.str (str "fresh")) ∧
        (endpointAnswers rotatingCall.1).map Except.toOption = [some (200, rotatingText)] := by
    decide +kernel
  refine Session.start.call hexec ⟨⟨_, returned?_eq_some hreturned⟩, fun a ha => ?_⟩
  have hmem : a.toOption ∈ [some (200, rotatingText)] := hanswers ▸ List.mem_map_of_mem ha
  cases a with
  | error e => trivial
  | ok a =>
      obtain rfl : a = (200, rotatingText) := Option.some.inj (List.mem_singleton.mp hmem)
      intro _ data hloads _
      cases rotatingProvider_loads.2.symm.trans hloads
      exact .inr ⟨_, rfl⟩

theorem session_refreshable_sample : ∃ calls s original record,
    Session (refreshEnv sampleDek) (fun _ => rotatingProvider.accessToken)
      (Ended rotatingProvider.json.loads) sampleRecords calls s ∧
    (refreshes rotatingProvider.json.loads calls).length = 1 ∧
    Opens rotatingProvider.json rotatingProvider.gcm sampleDek s record ∧
    Kept original (refreshes rotatingProvider.json.loads calls) record ∧
    (refreshes rotatingProvider.json.loads calls ≠ [] → ∀ τ m s', Exec (refreshEnv sampleDek)
        rotatingProvider.accessToken s τ (.done (.error (.oauth .reauthorizationRequired m))) s' →
      (∀ e, .error e ∈ endpointAnswers τ → ¬ e.IsOAuth) →
        ∃ body, .ok (400, body) ∈ endpointAnswers τ) := by
  obtain ⟨original, hopens, -⟩ := opens_sampleRecords rotatingProvider_loads.1
  have hdumps : ∀ v e, rotatingProvider.json.dumps v = .error e → ¬ e.IsOAuth := by
    intro v e h
    dsimp only [rotatingProvider, listedJson] at h
    split at h
    · cases h
    · cases h
      exact Exc.not_isOAuth fun _ _ h => by cases h
  obtain ⟨record, hrecord, hkept, hreauthorize⟩ := session_refreshable rotatingProvider_carries
    hdumps framedGcm_ideal rfl sampleProvider_splits hopens rotatingCall_session
  exact ⟨_, _, original, record, rotatingCall_session, by decide +kernel, hrecord, hkept,
    hreauthorize⟩

/-- A success with a number for a refresh token. -/
def numberToken : Bytes :=
  [str "\x7b\"access_token\": \"fresh\", ",
    str "\"refresh_token\": 5\x7d"].flatten.flatMap CodePoint.utf8

/-- The token after a response with a number for a refresh token. -/
def numberedToken : SendPath.SealedTokenStore.Token :=
  { sampleToken with
    accessToken := .str (str "fresh"), refreshToken := .int 5, issuedAt := .int 500
    expiresAt := .none }

@[irreducible] def numberedTokenText : Bytes :=
  [str "\x7b\"access_token\": \"fresh\", ", str "\"refresh_token\": 5, ",
    str "\"issued_at\": 500, ", str "\"expires_at\": null, ", str "\"client_id\": \"cid.apps\", ",
    str "\"client_secret\": null, ", str "\"scope\": ",
    str "\"https://www.googleapis.com", str "/auth/gmail.send\", ",
    str "\"write_origin\": \"refresh\", ",
    str "\"written_at\": 500\x7d"].flatten.flatMap CodePoint.utf8

/-- A provider that can read and write it. -/
def numberedProvider : RefreshingTokenProvider :=
  { sampleProvider with
    json := tabledJson [(numberedToken.blob (str "refresh"), numberedTokenText)] }

/-- The endpoint answers with the number. -/
@[irreducible] def numberedFirst : List RefreshEvent × Outcome Exc PyVal × Records :=
  numberedProvider.accessToken.run (fun _ => refreshPerform 500 (.ok (200, numberToken))) 20
    sampleRecords

/-- The call after it. -/
@[irreducible] def numberedSecond : List RefreshEvent × Outcome Exc PyVal × Records :=
  numberedProvider.accessToken.run (fun _ => refreshPerform 600 (.ok (200, numberToken))) 20
    numberedFirst.2.2

/-- A new authorization is asked for. -/
def reauthorizes : Outcome Exc PyVal → Bool
  | .done (.error (.oauth .reauthorizationRequired _)) => true
  | _ => false

/-- The number is stored, and the next call asks for a new authorization without a request. -/
theorem session_numberToken :
    (∃ original token clientId,
      Opens numberedProvider.json numberedProvider.gcm sampleDek sampleRecords original ∧
        original.get (str "refresh_token") = .str token ∧
        original.get (str "client_id") = .str clientId) ∧
    ∃ (first second : RefreshCall) (s : Records),
      Session (refreshEnv sampleDek) (fun _ => numberedProvider.accessToken) anyCall
        sampleRecords [first, second] s ∧
      returned? first.outcome = some (.str (str "fresh")) ∧
      (endpointAnswers first.events).map Except.toOption = [some (200, numberToken)] ∧
      reauthorizes second.outcome = true ∧ (endpointAnswers second.events).length = 0 := by
  constructor
  · obtain ⟨original, hopens, horiginal⟩ :=
      @opens_sampleRecords numberedProvider.json sampleTokenText_parses
    obtain ⟨-, htoken, -, hid, -⟩ := blob_fields horiginal
    exact ⟨original, _, _, hopens, htoken, hid⟩
  · have hfirst : Exec (refreshEnv sampleDek) numberedProvider.accessToken sampleRecords
        numberedFirst.1 numberedFirst.2.1 numberedFirst.2.2 := by
      unfold numberedFirst
      exact run_exec (fun _ => refreshPerform_env _ _) 20 _ _
    have hsecond : Exec (refreshEnv sampleDek) numberedProvider.accessToken numberedFirst.2.2
        numberedSecond.1 numberedSecond.2.1 numberedSecond.2.2 := by
      unfold numberedSecond
      exact run_exec (fun _ => refreshPerform_env _ _) 20 _ _
    let first : RefreshCall := ⟨(), numberedFirst.1, numberedFirst.2.1⟩
    let second : RefreshCall := ⟨(), numberedSecond.1, numberedSecond.2.1⟩
    have hone : Session (refreshEnv sampleDek) (fun _ : Unit => numberedProvider.accessToken) anyCall
        sampleRecords [first] numberedFirst.2.2 := Session.start.call hfirst trivial
    exact ⟨first, second, _, hone.call hsecond trivial, by decide +kernel⟩

end RefreshingTokenProvider

end GmailGateway
