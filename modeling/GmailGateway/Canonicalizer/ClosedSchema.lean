import GmailGateway.Canonicalizer.PayloadDigest

/-!
# GmailGateway.Canonicalizer.ClosedSchema

**The closed schema.** Which inputs `build_canonical_payload` takes, as a description of the
input alone, and that it refuses all others with `PayloadSchemaError`.

The three optional slots are tested for truth before they are tested for type, so a slot that
holds any falsy value (`null`, `false`, `0`, an empty string or object) reads like an empty one.
-/

namespace GmailGateway

open Python PyVal

/-! ### The schema -/

/-- An object with no keys besides these. -/
def ObjectWithin (allowed : List PyStr) (v : PyVal) : Prop :=
  ∃ members : Dict, v = .dict members ∧ ∀ m ∈ members, m.1 ∈ allowed

theorem ObjectWithin.ne_dict {allowed : List PyStr} {v : PyVal} (h : ObjectWithin allowed v)
    (hv : ∀ d : Dict, v ≠ .dict d) : False := by
  obtain ⟨d, hd, -⟩ := h
  exact hv d hd

/-- A string. -/
def IsStr (v : PyVal) : Prop := ∃ s, v = .str s

/-- A list of strings. -/
def IsStrings (v : PyVal) : Prop := ∃ xs, v = strings xs

/-- The five fields and no others. -/
structure IsAttachment (a : PyVal) : Prop where
  object : ObjectWithin attachmentKeys a
  name : IsStr (field a "name")
  mediaType : IsStr (field a "media_type")
  contentRef : IsStr (field a "content_ref")
  sha256 : IsStr (field a "sha256")
  size : ∃ n : Int, 0 ≤ n ∧ field a "size" = .int n

/-- A list of attachments. -/
def IsAttachments (v : PyVal) : Prop := ∃ xs, v = .list xs ∧ ∀ a ∈ xs, IsAttachment a

/-- A `PrepareEmail` input. What an optional slot may hold in place of a list is `omitted`; a
slot that is absent reads `None`. -/
structure ClosedSchema (omitted : PyVal → Prop) (prepare : PyVal) : Prop where
  object : ObjectWithin topLevelAllowed prepare
  accountHandle : IsStr (field prepare "account_handle")
  subject : IsStr (field prepare "subject")
  body : ObjectWithin bodyKeys (field prepare "body")
  format : IsStr (field (field prepare "body") "format")
  content : IsStr (field (field prepare "body") "content")
  recipients : IsStrings (field prepare "to")
  cc : omitted (field prepare "cc") ∨ IsStrings (field prepare "cc")
  bcc : omitted (field prepare "bcc") ∨ IsStrings (field prepare "bcc")
  attachments : omitted (field prepare "attachments") ∨ IsAttachments (field prepare "attachments")

/-! ### Checks -/

section Decides
variable {α β : Type}

/-- The check returns if `p` holds, and raises `PayloadSchemaError` if it does not. -/
def Decides (x : Except Exc α) (p : Prop) : Prop :=
  (p ∧ ∃ a, x = .ok a) ∨ ¬ p ∧ ∃ message args, x = .error (.payloadSchema message args)

variable {x : Except Exc α} {p q : Prop} {message : String} {args : List PyVal}

theorem Decides.congr (h : Decides x p) (hpq : p ↔ q) : Decides x q := by
  unfold Decides
  rw [← hpq]
  exact h

theorem decides_pure (a : α) : Decides (pure a) True := .inl ⟨trivial, a, rfl⟩

theorem decides_bind {f : α → Except Exc β} (hx : Decides x p)
    (hf : ∀ a, x = .ok a → Decides (f a) q) : Decides (x >>= f) (p ∧ q) := by
  rcases hx with ⟨hp, a, rfl⟩ | ⟨hp, message, args, rfl⟩
  · rcases hf a rfl with ⟨hq, hreturns⟩ | ⟨hq, hraises⟩
    · exact .inl ⟨⟨hp, hq⟩, hreturns⟩
    · exact .inr ⟨fun h => hq h.2, hraises⟩
  · exact .inr ⟨fun h => hp h.1, message, args, rfl⟩

theorem decides_assoc {γ : Type} {f : α → Except Exc β} {g : β → Except Exc γ}
    (hx : Decides (x >>= f) p) (hg : ∀ b, x >>= f = .ok b → Decides (g b) q) :
    Decides (x >>= fun a => f a >>= g) (p ∧ q) := by
  rw [← bind_assoc]
  exact decides_bind hx hg

theorem decides_map (f : α → β) (h : Decides x p) : Decides (f <$> x) p := by
  rcases h with ⟨hp, a, rfl⟩ | ⟨hp, message, args, rfl⟩
  · exact .inl ⟨hp, f a, rfl⟩
  · exact .inr ⟨hp, message, args, rfl⟩

theorem decides_rejectIf [Decidable p] :
    Decides (rejectIf p (payloadSchemaError message args)) (¬ p) := by
  by_cases hp : p
  · exact .inr ⟨not_not.mpr hp, message, args, if_pos hp⟩
  · exact .inl ⟨hp, (), if_neg hp⟩

theorem decides_expectStr (v : PyVal) :
    Decides (expectStr (payloadSchemaError message args) v) (IsStr v) := by
  cases v with
  | str s => exact .inl ⟨⟨s, rfl⟩, s, rfl⟩
  | none | bool | int | float | list | dict => exact .inr ⟨nofun, message, args, rfl⟩

theorem decides_expectDict (v : PyVal) :
    Decides (expectDict (payloadSchemaError message args) v) (∃ d : Dict, v = .dict d) := by
  cases v with
  | dict d => exact .inl ⟨⟨d, rfl⟩, d, rfl⟩
  | none | bool | int | float | str | list => exact .inr ⟨nofun, message, args, rfl⟩

theorem decides_mapM {f : α → Except Exc β} {p : α → Prop} (hf : ∀ a, Decides (f a) (p a))
    (xs : List α) : Decides (xs.mapM f) (∀ a ∈ xs, p a) := by
  induction xs with
  | nil => exact (decides_pure []).congr (iff_of_true trivial (List.forall_mem_nil _))
  | cons a xs ih =>
      rw [List.mapM_cons, List.forall_mem_cons]
      refine decides_bind (hf a) fun _ _ => ?_
      exact (decides_bind ih fun _ _ => decides_pure _).congr (iff_of_eq (and_true _))

end Decides

/-! ### The fields -/

theorem expectDict_bind {α : Type} {e : Exc} {d : Dict} {f : Dict → Except Exc α} :
    (expectDict e (.dict d) >>= f) = f d := rfl

theorem decides_rejectUnknown {name : PyStr} {d : Dict} {allowed : List PyStr} :
    Decides (rejectUnknown name d allowed) (∀ m ∈ d, m.1 ∈ allowed) := by
  refine decides_rejectIf.congr ?_
  simp [Dict.unknownKeys]

/-- A required field that is checked. An absent one reads `None`, which no check accepts. -/
theorem decides_required {α : Type} {name : PyStr} {d : Dict} {key : String}
    {check : PyVal → Except Exc α} {p : PyVal → Prop} (hcheck : ∀ v, Decides (check v) (p v))
    (hnone : ¬ p .none) :
    Decides (requireField name d key >>= check) (p (field (.dict d) key)) := by
  unfold requireField
  cases hget : d.get? (str key) with
  | none =>
      have hfield : field (.dict d) key = .none := by rw [field, Dict.get, hget]; rfl
      rw [hfield]
      exact .inr ⟨hnone, _, _, rfl⟩
  | some v =>
      have hfield : field (.dict d) key = v := by rw [field, Dict.get, hget]; rfl
      rw [hfield]
      exact hcheck v

theorem not_isStr_none : ¬ IsStr .none := nofun

/-- The field is there. -/
def Present (v : PyVal) (key : String) : Prop :=
  ∀ d : Dict, v = .dict d → d.get? (str key) ≠ Option.none

theorem decides_requireField {name : PyStr} {d : Dict} {key : String} :
    Decides (requireField name d key) (Present (.dict d) key) := by
  unfold requireField
  cases hget : d.get? (str key) with
  | none => exact .inr ⟨fun h => h d rfl hget, _, _, rfl⟩
  | some v =>
      refine .inl ⟨fun d' hd => ?_, v, rfl⟩
      cases hd
      rw [hget]
      exact Option.some_ne_none v

theorem IsStr.present {v : PyVal} {key : String} (h : IsStr (field v key)) : Present v key := by
  intro d hd habsent
  obtain ⟨s, hs⟩ := h
  rw [hd, field, Dict.get, habsent] at hs
  cases hs

theorem decides_requiredStr {name : PyStr} {d : Dict} {key message : String}
    {args : List PyVal} :
    Decides (requireField name d key >>= expectStr (payloadSchemaError message args))
      (IsStr (field (.dict d) key)) := decides_required decides_expectStr not_isStr_none

theorem not_isStrings_none : ¬ IsStrings .none := fun h => by
  obtain ⟨xs, hxs⟩ := h
  cases hxs

theorem isStrings_list {xs : List PyVal} : IsStrings (.list xs) ↔ ∀ x ∈ xs, IsStr x := by
  constructor
  · intro h x hx
    obtain ⟨ss, hss⟩ := h
    rw [PyVal.list.inj hss] at hx
    obtain ⟨s, -, rfl⟩ := List.mem_map.mp hx
    exact ⟨s, rfl⟩
  · intro h
    refine ⟨xs.map text, ?_⟩
    rw [strings, List.map_map]
    have hid : xs.map (PyVal.str ∘ text) = xs.map id := List.map_congr_left fun x hx => by
      obtain ⟨s, rfl⟩ := h x hx
      rfl
    rw [hid, List.map_id]

theorem decides_strList (name : String) (v : PyVal) : Decides (strList name v) (IsStrings v) := by
  cases v with
  | list xs => exact (decides_mapM decides_expectStr xs).congr isStrings_list.symm
  | none | bool | int | float | str | dict => exact .inr ⟨nofun, _, _, rfl⟩

theorem decides_optionalStrList {d : Dict} {key : String} :
    Decides (optionalStrList d key)
      ((field (.dict d) key).truthy = false ∨ IsStrings (field (.dict d) key)) := by
  unfold optionalStrList
  split
  case isTrue htruthy => exact (decides_strList key _).congr (by simp [field, htruthy])
  case isFalse hfalsy =>
    exact (decides_pure []).congr (iff_of_true trivial (.inl (by simpa [field] using hfalsy)))

theorem decides_normalizeAttachment (index : Nat) (a : PyVal) :
    Decides (normalizeAttachment index a) (IsAttachment a) := by
  cases a with
  | dict d =>
      have h : Decides (normalizeAttachment index (.dict d)) ((∀ m ∈ d, m.1 ∈ attachmentKeys) ∧
          IsStr (field (.dict d) "name") ∧ IsStr (field (.dict d) "media_type") ∧
          IsStr (field (.dict d) "content_ref") ∧ IsStr (field (.dict d) "sha256") ∧
          ∃ n : Int, 0 ≤ n ∧ field (.dict d) "size" = .int n) := by
        rw [normalizeAttachment, expectDict_bind]
        refine decides_bind decides_rejectUnknown fun _ _ => ?_
        refine decides_bind decides_requiredStr fun name _ => ?_
        refine decides_bind decides_requiredStr fun mediaType _ => ?_
        refine decides_bind decides_requiredStr fun contentRef _ => ?_
        refine decides_bind decides_requiredStr fun sha256 _ => ?_
        refine decides_required (p := fun v => ∃ n : Int, 0 ≤ n ∧ v = .int n) (fun v => ?_) nofun
        cases v with
        | int n =>
            refine (decides_bind decides_rejectIf fun _ _ => decides_pure _).congr ?_
            simp
        | none | bool | float | str | list | dict => exact .inr ⟨nofun, _, _, rfl⟩
      refine h.congr ⟨fun hfields => ?_, fun h => ?_⟩
      · obtain ⟨hkeys, hname, hmediaType, hcontentRef, hsha256, hsize⟩ := hfields
        exact ⟨⟨d, rfl, hkeys⟩, hname, hmediaType, hcontentRef, hsha256, hsize⟩
      · obtain ⟨members, hmembers, hkeys⟩ := h.object
        cases hmembers
        exact ⟨hkeys, h.name, h.mediaType, h.contentRef, h.sha256, h.size⟩
  | none | bool | int | float | str | list =>
      exact .inr ⟨fun h => h.object.ne_dict (fun _ h => by cases h), _, _, rfl⟩

theorem decides_normalizeAttachments (xs : List PyVal) :
    Decides (normalizeAttachments xs) (∀ a ∈ xs, IsAttachment a) := by
  have hitem : ∀ x : PyVal × Nat, Decides (normalizeAttachment x.2 x.1) (IsAttachment x.1) :=
    fun x => decides_normalizeAttachment x.2 x.1
  have hitems := decides_mapM hitem xs.zipIdx
  change Decides (normalizeAttachments xs) (∀ x ∈ xs.zipIdx, IsAttachment x.1) at hitems
  refine hitems.congr ?_
  constructor
  · intro h a ha
    obtain ⟨i, hi, rfl⟩ := List.mem_iff_getElem.mp ha
    exact h (xs[i], i) (List.mk_mem_zipIdx_iff_getElem?.mpr (List.getElem?_eq_getElem hi))
  · intro h x hx
    exact h x.1 (List.fst_mem_of_mem_zipIdx hx)

theorem decides_attachments {α : Type} {f : List PyVal → α} {message : String}
    {args : List PyVal} (v : PyVal) :
    Decides (do
      let xs ← expectList (payloadSchemaError message args) v
      let attachments ← normalizeAttachments xs
      pure (f attachments)) (IsAttachments v) := by
  cases v with
  | list xs =>
      refine (decides_bind (decides_normalizeAttachments xs) fun _ _ => decides_pure _).congr ?_
      constructor
      · intro h
        exact ⟨xs, rfl, h.1⟩
      · intro h
        obtain ⟨ys, hys, hall⟩ := h
        cases hys
        exact ⟨hall, trivial⟩
  | none | bool | int | float | str | dict =>
      exact .inr ⟨fun h => (by obtain ⟨_, hxs, -⟩ := h; cases hxs), message, args, rfl⟩

/-! ### The input -/

/-- A slot that holds any falsy value reads like an empty one. -/
abbrev Falsy (v : PyVal) : Prop := v.truthy = false

theorem decides_fields (fields : Dict) :
    Decides (buildCanonicalPayload (.dict fields) .none) (ClosedSchema Falsy (.dict fields)) := by
  let at_ := field (.dict fields)
  have h : Decides (buildCanonicalPayload (.dict fields) .none)
      ((∀ m ∈ fields, m.1 ∈ topLevelAllowed) ∧ IsStr (at_ "account_handle") ∧
        IsStr (at_ "subject") ∧ (∃ body : Dict, at_ "body" = .dict body) ∧
        (∀ body : Dict, at_ "body" = .dict body → ∀ m ∈ body, m.1 ∈ bodyKeys) ∧
        Present (at_ "body") "format" ∧ Present (at_ "body") "content" ∧
        IsStr (field (at_ "body") "format") ∧ IsStr (field (at_ "body") "content") ∧
        IsStrings (at_ "to") ∧ (Falsy (at_ "cc") ∨ IsStrings (at_ "cc")) ∧
        (Falsy (at_ "bcc") ∨ IsStrings (at_ "bcc")) ∧
        (Falsy (at_ "attachments") ∨ IsAttachments (at_ "attachments"))) := by
    simp only [buildCanonicalPayload, pure_bind, expectDict_bind]
    refine decides_bind decides_rejectUnknown fun _ _ => ?_
    refine decides_assoc decides_requiredStr fun accountHandle _ => ?_
    refine decides_assoc decides_requiredStr fun subject _ => ?_
    have hobject : ¬ ∃ d, PyVal.none = .dict d := by
      rintro ⟨d, hd⟩
      cases hd
    refine decides_assoc (decides_required decides_expectDict hobject) fun body hbody => ?_
    have hbody : at_ "body" = .dict body := by
      obtain ⟨v, hv, hdict⟩ := bind_eq_ok.mp hbody
      exact (requireField_eq_ok hv).trans (expectDict_eq_ok.mp hdict)
    rw [hbody]
    refine decides_bind (decides_rejectUnknown.congr ?_) fun _ _ => ?_
    · constructor
      · intro hkeys body' heq
        cases heq
        exact hkeys
      · intro hkeys
        exact hkeys body rfl
    refine decides_bind decides_requireField fun format hformat => ?_
    refine decides_bind decides_requireField fun content hcontent => ?_
    rw [requireField_eq_ok hformat, requireField_eq_ok hcontent]
    refine decides_bind (decides_expectStr format) fun _ _ => ?_
    refine decides_bind (decides_expectStr content) fun _ _ => ?_
    refine decides_assoc (decides_required (decides_strList "to") not_isStrings_none) fun _ _ => ?_
    refine decides_bind decides_optionalStrList fun cc _ => ?_
    refine decides_bind decides_optionalStrList fun bcc _ => ?_
    split
    case isTrue htruthy =>
      refine (decides_attachments (at_ "attachments")).congr (or_iff_right ?_).symm
      exact ne_false_of_eq_true htruthy
    case isFalse hfalsy =>
      refine (decides_bind (decides_normalizeAttachments []) fun _ _ => decides_pure _).congr ?_
      exact iff_of_true ⟨List.forall_mem_nil _, trivial⟩ (.inl (Bool.eq_false_of_not_eq_true hfalsy))
  refine h.congr ⟨?_, ?_⟩
  · intro h
    obtain ⟨hkeys, haccount, hsubject, hobject, hbody, -, -, hformat, hcontent, hto, hcc, hbcc, ha⟩ := h
    obtain ⟨body, hobject⟩ := hobject
    exact ⟨⟨fields, rfl, hkeys⟩, haccount, hsubject, ⟨body, hobject, hbody body hobject⟩, hformat,
      hcontent, hto, hcc, hbcc, ha⟩
  · intro h
    obtain ⟨members, hmembers, hkeys⟩ := h.object
    cases hmembers
    obtain ⟨body, hobject, hbody⟩ := h.body
    refine ⟨hkeys, h.accountHandle, h.subject, ⟨body, hobject⟩, fun body' hobject' => ?_,
      h.format.present, h.content.present, h.format, h.content, h.recipients, h.cc, h.bcc,
      h.attachments⟩
    cases hobject.symm.trans hobject'
    exact hbody

theorem decides_buildCanonicalPayload (prepare : PyVal) :
    Decides (buildCanonicalPayload prepare .none) (ClosedSchema Falsy prepare) := by
  cases prepare with
  | dict fields => exact decides_fields fields
  | none | bool | int | float | str | list =>
      exact .inr ⟨fun h => h.object.ne_dict (fun _ h => by cases h), _, _, rfl⟩

/-- **Closed schema.** With a Message-ID or none, an input is accepted exactly if it is in the
schema; every other input is refused with `PayloadSchemaError`. What is returned is the payload
of the content, which reads the fields of the schema and no others. -/
theorem buildCanonicalPayload_closedSchema (prepare : PyVal) {messageId : PyVal}
    (hid : messageId = .none ∨ ∃ s, s ≠ [] ∧ messageId = .str s) :
    ((∃ canonical, buildCanonicalPayload prepare messageId = .ok canonical) ↔
        ClosedSchema Falsy prepare) ∧
      (∀ canonical, buildCanonicalPayload prepare messageId = .ok canonical →
        canonical = (contentOf prepare messageId).canonical) ∧
      ∀ e, buildCanonicalPayload prepare messageId = .error e →
        ∃ message args, e = .payloadSchema message args := by
  have hdecides : Decides (buildCanonicalPayload prepare messageId) (ClosedSchema Falsy prepare) := by
    rcases hid with rfl | ⟨s, hs, rfl⟩
    · exact decides_buildCanonicalPayload prepare
    · obtain ⟨c, cs, rfl⟩ := List.exists_cons_of_ne_nil hs
      rw [buildCanonicalPayload_messageId]
      exact decides_map _ (decides_buildCanonicalPayload prepare)
  refine ⟨?_, fun canonical => buildCanonicalPayload_eq_ok, ?_⟩
  · rcases hdecides with ⟨hschema, hreturns⟩ | ⟨hschema, message, args, hraises⟩
    · exact iff_of_true hreturns hschema
    · refine iff_of_false (fun hreturns => ?_) hschema
      obtain ⟨canonical, hreturns⟩ := hreturns
      rw [hraises] at hreturns
      cases hreturns
  · intro e he
    rcases hdecides with ⟨-, canonical, hreturns⟩ | ⟨-, message, args, hraises⟩
    · rw [hreturns] at he
      cases he
    · rw [hraises] at he
      exact ⟨message, args, (Except.error.inj he).symm⟩

theorem buildCanonicalPayload_closedSchema_sample : ClosedSchema Falsy (.dict sampleEmail) :=
  (buildCanonicalPayload_closedSchema (.dict sampleEmail) (.inr ⟨str "m", by decide, rfl⟩)).1.mp
    ⟨_, rfl⟩

/-- An empty string for `cc` is no list of strings, and yet the input is accepted. -/
theorem buildCanonicalPayload_falsySlot : ¬ ∀ prepare messageId : PyVal,
    (messageId = .none ∨ ∃ s, s ≠ [] ∧ messageId = .str s) →
      ((∃ canonical, buildCanonicalPayload prepare messageId = .ok canonical) ↔
        ClosedSchema (fun v => v = .none) prepare) := by
  intro hexact
  have hschema := (hexact (.dict ((str "cc", .str []) :: sampleEmail)) .none (.inl rfl)).mp ⟨_, rfl⟩
  rcases hschema.cc with hcc | ⟨xs, hcc⟩
  · cases hcc
  · cases hcc

end GmailGateway
