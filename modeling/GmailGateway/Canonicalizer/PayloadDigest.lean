import GmailGateway.Authz.GateState
import GmailGateway.Canonicalizer.MemberOrder
import GmailGateway.Canonicalizer.Payload

/-!
# GmailGateway.Canonicalizer.PayloadDigest

**The digest is of the content.** `contentOf` reads off an input what an email says: who it is
from and to, its subject and body, its attachments and its Message-ID. The canonical payload of
an accepted input is a function of that content and determines it, and so does its digest, as
far as SHA-256 has no collision there.
-/

namespace GmailGateway

open Python

/-! ### What an input says -/

/-- What an attachment of an email says. -/
structure Attachment where
  name : PyStr
  mediaType : PyStr
  contentRef : PyStr
  sha256 : PyStr
  size : Int
  deriving DecidableEq

/-- What is approved. -/
structure EmailContent where
  accountHandle : PyStr
  recipients : List PyStr
  cc : List PyStr
  bcc : List PyStr
  subject : PyStr
  bodyFormat : PyStr
  bodyContent : PyStr
  attachments : List Attachment
  messageId : Option PyStr
  deriving DecidableEq

namespace PyVal

/-- The field of an object. -/
def field : PyVal → String → PyVal
  | .dict members, key => Dict.get members (str key)
  | _, _ => .none

/-- The string, if it is one. -/
def text : PyVal → PyStr
  | .str s => s
  | _ => []

/-- The items of a list; a field that is absent has none. -/
def items : PyVal → List PyVal
  | .list xs => xs
  | _ => []

/-- The integer, if it is one. -/
def integer : PyVal → Int
  | .int i => i
  | _ => 0

end PyVal

open PyVal

/-- What an attachment in the input says. -/
def attachmentOf (a : PyVal) : Attachment where
  name := text (field a "name")
  mediaType := text (field a "media_type")
  contentRef := text (field a "content_ref")
  sha256 := text (field a "sha256")
  size := integer (field a "size")

/-- The content of a `PrepareEmail` input with a Message-ID. Neither the idempotency key nor
the order of fields is part of it, and a slot that is left out reads like an empty one. -/
def contentOf (prepare messageId : PyVal) : EmailContent where
  accountHandle := text (field prepare "account_handle")
  recipients := (items (field prepare "to")).map text
  cc := (items (field prepare "cc")).map text
  bcc := (items (field prepare "bcc")).map text
  subject := text (field prepare "subject")
  bodyFormat := text (field (field prepare "body") "format")
  bodyContent := text (field (field prepare "body") "content")
  attachments := (items (field prepare "attachments")).map attachmentOf
  messageId := match messageId with
    | .str s => some s
    | _ => none

/-! ### The canonical payload of a content -/

/-- Its canonical form. -/
def Attachment.canonical (a : Attachment) : PyVal :=
  .dict [(str "content_ref", .str a.contentRef), (str "media_type", .str a.mediaType),
    (str "name", .str a.name), (str "sha256", .str a.sha256), (str "size", .int a.size)]

/-- A list of strings. -/
def strings (xs : List PyStr) : PyVal := .list (xs.map .str)

/-- The canonical payload of a content. A Message-ID is a member only if there is one. -/
def EmailContent.canonical (c : EmailContent) : Dict :=
  [(str "account_handle", .str c.accountHandle), (str "to", strings c.recipients),
    (str "cc", strings c.cc), (str "bcc", strings c.bcc), (str "subject", .str c.subject),
    (str "body", .dict [(str "format", .str c.bodyFormat), (str "content", .str c.bodyContent)]),
    (str "attachments", .list (c.attachments.map Attachment.canonical))] ++
  c.messageId.toList.map fun m => (str "message_id", .str m)

theorem requireField_eq_ok {name : PyStr} {mapping : Dict} {key : String} {v : PyVal}
    (h : requireField name mapping key = .ok v) : field (.dict mapping) key = v := by
  unfold requireField at h
  cases hget : mapping.get? (str key) with
  | none =>
      rw [hget] at h
      cases h
  | some w =>
      rw [hget] at h
      cases h
      simp only [field, Dict.get, hget, Option.getD_some]

/-- A list of strings is the list of its texts. -/
theorem strList_eq_ok {name : String} {v : PyVal} {xs : List PyStr}
    (h : strList name v = .ok xs) : xs = (items v).map text := by
  obtain ⟨vs, hvs, h⟩ := bind_eq_ok.mp h
  have hmap := Jcs.map_eq_of_forall₂ (f := text) (g := id) (Jcs.mapM_eq_ok.mp h)
    fun v _ s hs => by rw [expectStr_eq_ok.mp hs]; rfl
  rw [expectList_eq_ok.mp hvs, items, hmap, List.map_id]

theorem items_of_falsy {v : PyVal} (h : v.truthy = false) : items v = [] := by
  cases v <;> simp_all [truthy, items]

theorem optionalStrList_eq_ok {prepare : Dict} {key : String} {xs : List PyStr}
    (h : optionalStrList prepare key = .ok xs) :
    xs = (items (field (.dict prepare) key)).map text := by
  unfold optionalStrList at h
  split at h
  case isTrue => exact strList_eq_ok h
  case isFalse hfalsy =>
    cases h
    rw [field, items_of_falsy (by simpa using hfalsy)]
    rfl

theorem attachmentStr_eq_ok {location : PyStr} {a : Dict} {key : String} {s : PyStr}
    (h : attachmentStr location a key = .ok s) : s = text (field (.dict a) key) := by
  obtain ⟨v, hv, h⟩ := bind_eq_ok.mp h
  rw [requireField_eq_ok hv, expectStr_eq_ok.mp h]
  rfl

theorem normalizeAttachment_eq_ok {index : Nat} {a v : PyVal}
    (h : normalizeAttachment index a = .ok v) : v = (attachmentOf a).canonical := by
  obtain ⟨members, hmembers, h⟩ := bind_eq_ok.mp h
  obtain ⟨-, -, h⟩ := bind_eq_ok.mp h
  obtain ⟨name, hname, h⟩ := bind_eq_ok.mp h
  obtain ⟨mediaType, hmediaType, h⟩ := bind_eq_ok.mp h
  obtain ⟨contentRef, hcontentRef, h⟩ := bind_eq_ok.mp h
  obtain ⟨sha256, hsha256, h⟩ := bind_eq_ok.mp h
  obtain ⟨size, hsize, h⟩ := bind_eq_ok.mp h
  rw [expectDict_eq_ok.mp hmembers]
  cases size with
  | int i =>
      obtain ⟨-, -, h⟩ := bind_eq_ok.mp h
      cases h
      rw [attachmentOf, requireField_eq_ok hsize, ← attachmentStr_eq_ok hname,
        ← attachmentStr_eq_ok hmediaType, ← attachmentStr_eq_ok hcontentRef,
        ← attachmentStr_eq_ok hsha256]
      rfl
  | none | bool | float | str | list | dict => cases h

theorem normalizeAttachments_eq_ok {attachments vs : List PyVal}
    (h : normalizeAttachments attachments = .ok vs) :
    vs = attachments.map fun a => (attachmentOf a).canonical := by
  have hmap := Jcs.map_eq_of_forall₂ (f := fun x => (attachmentOf x.1).canonical) (g := id)
    (Jcs.mapM_eq_ok.mp h) fun x _ v hv => (normalizeAttachment_eq_ok hv).symm
  rw [List.map_id] at hmap
  rw [← hmap]
  conv_rhs => rw [← List.zipIdx_map_fst 0 attachments, List.map_map]
  rfl

theorem map_ite {α β : Type} (f : α → β) (p : Prop) [Decidable p] (x y : Except Exc α) :
    (f <$> if p then x else y) = if p then f <$> x else f <$> y := apply_ite (f <$> ·) p x y

/-- A Message-ID is appended to what is built without one. -/
theorem buildCanonicalPayload_messageId (prepare : PyVal) (c : CodePoint) (cs : PyStr) :
    buildCanonicalPayload prepare (.str (c :: cs)) =
      (· ++ [(str "message_id", .str (c :: cs))]) <$> buildCanonicalPayload prepare .none := by
  simp only [buildCanonicalPayload, map_bind, map_ite, map_pure, pure_bind, List.append_nil]

theorem buildCanonicalPayload_none {prepare : PyVal} {canonical : Dict}
    (h : buildCanonicalPayload prepare .none = .ok canonical) :
    canonical = (contentOf prepare .none).canonical := by
  simp only [buildCanonicalPayload, pure_bind] at h
  obtain ⟨fields, hfields, h⟩ := bind_eq_ok.mp h
  obtain ⟨-, -, h⟩ := bind_eq_ok.mp h
  obtain ⟨account, haccount, h⟩ := bind_eq_ok.mp h
  obtain ⟨accountHandle, haccountHandle, h⟩ := bind_eq_ok.mp h
  obtain ⟨s, hs, h⟩ := bind_eq_ok.mp h
  obtain ⟨subject, hsubject, h⟩ := bind_eq_ok.mp h
  obtain ⟨b, hb, h⟩ := bind_eq_ok.mp h
  obtain ⟨body, hbody, h⟩ := bind_eq_ok.mp h
  obtain ⟨-, -, h⟩ := bind_eq_ok.mp h
  obtain ⟨f, hf, h⟩ := bind_eq_ok.mp h
  obtain ⟨t, ht, h⟩ := bind_eq_ok.mp h
  obtain ⟨format, hformat, h⟩ := bind_eq_ok.mp h
  obtain ⟨content, hcontent, h⟩ := bind_eq_ok.mp h
  obtain ⟨r, hr, h⟩ := bind_eq_ok.mp h
  obtain ⟨recipients, hrecipients, h⟩ := bind_eq_ok.mp h
  obtain ⟨cc, hcc, h⟩ := bind_eq_ok.mp h
  obtain ⟨bcc, hbcc, h⟩ := bind_eq_ok.mp h
  have hattachments : ∃ attachments,
      attachments = (items (field (.dict fields) "attachments")).map
        (fun a => (attachmentOf a).canonical) ∧
      canonical = [(str "account_handle", .str accountHandle),
        (str "to", .list (recipients.map .str)), (str "cc", .list (cc.map .str)),
        (str "bcc", .list (bcc.map .str)), (str "subject", .str subject),
        (str "body", .dict [(str "format", .str format), (str "content", .str content)]),
        (str "attachments", .list attachments)] := by
    split at h
    case isTrue =>
      obtain ⟨attachments, hlist, h⟩ := bind_eq_ok.mp h
      obtain ⟨normalized, hnormalized, h⟩ := bind_eq_ok.mp h
      cases h
      refine ⟨normalized, ?_, rfl⟩
      rw [normalizeAttachments_eq_ok hnormalized, field, expectList_eq_ok.mp hlist, items]
    case isFalse hfalsy =>
      obtain ⟨normalized, hnormalized, h⟩ := bind_eq_ok.mp h
      cases h
      refine ⟨normalized, ?_, rfl⟩
      rw [normalizeAttachments_eq_ok hnormalized, field, items_of_falsy (by simpa using hfalsy)]
  obtain ⟨attachments, hattachments, rfl⟩ := hattachments
  rw [expectDict_eq_ok.mp hfields]
  have hbody : field (.dict fields) "body" = .dict body :=
    (requireField_eq_ok hb).trans (expectDict_eq_ok.mp hbody)
  simp only [EmailContent.canonical, contentOf, hbody, strings, requireField_eq_ok haccount,
    requireField_eq_ok hs, requireField_eq_ok hf, requireField_eq_ok ht, requireField_eq_ok hr,
    ← strList_eq_ok hrecipients, ← optionalStrList_eq_ok hcc, ← optionalStrList_eq_ok hbcc,
    expectStr_eq_ok.mp haccountHandle, expectStr_eq_ok.mp hsubject, expectStr_eq_ok.mp hformat,
    expectStr_eq_ok.mp hcontent, text, hattachments, List.map_map]
  rfl

/-- What is neither `None` nor a string is no Message-ID, and neither is the empty string. -/
theorem buildCanonicalPayload_badMessageId {prepare messageId : PyVal} {canonical : Dict}
    (hnone : messageId ≠ .none) (hstr : ∀ c cs, messageId ≠ .str (c :: cs)) :
    buildCanonicalPayload prepare messageId ≠ .ok canonical := by
  intro h
  obtain ⟨fields, -, h⟩ := bind_eq_ok.mp h
  obtain ⟨-, -, h⟩ := bind_eq_ok.mp h
  split at h
  · exact hnone rfl
  · exact hstr _ _ rfl
  · cases h

/-- **Normalization.** The canonical payload of an accepted input is that of its content. -/
theorem buildCanonicalPayload_eq_ok {prepare messageId : PyVal} {canonical : Dict}
    (h : buildCanonicalPayload prepare messageId = .ok canonical) :
    canonical = (contentOf prepare messageId).canonical := by
  cases messageId with
  | none => exact buildCanonicalPayload_none h
  | str s =>
      cases s with
      | nil => exact absurd h (buildCanonicalPayload_badMessageId nofun nofun)
      | cons c cs =>
          rw [buildCanonicalPayload_messageId] at h
          cases hnone : buildCanonicalPayload prepare .none with
          | error e =>
              rw [hnone] at h
              cases h
          | ok without =>
              rw [hnone, buildCanonicalPayload_none hnone] at h
              cases h
              rfl
  | bool | int | float | list | dict => exact absurd h (buildCanonicalPayload_badMessageId nofun nofun)

/-! ### The order of fields -/

/-- Dicts with the same items read the same, in whatever order those were inserted. -/
theorem get?_perm {members others : Dict} (hperm : members.Perm others)
    (hnodup : (members.map Prod.fst).Nodup) (key : PyStr) :
    members.get? key = others.get? key := by
  unfold Dict.get?
  induction hperm with
  | nil => rfl
  | cons m _ ih =>
      rw [List.map_cons, List.nodup_cons] at hnodup
      rw [List.lookup_cons, List.lookup_cons, ih hnodup.2]
  | swap m n members =>
      simp only [List.map_cons, List.nodup_cons, List.mem_cons, not_or] at hnodup
      rw [List.lookup_cons, List.lookup_cons, List.lookup_cons, List.lookup_cons]
      -- Only one of the two members can have the key.
      by_cases hm : key = m.1
      · have hn : (key == n.1) = false := beq_false_of_ne fun h => hnodup.1.1 (h.symm.trans hm)
        simp [hn]
      · have hm : (key == m.1) = false := beq_false_of_ne hm
        simp [hm]
  | trans h₁ _ ih₁ ih₂ => rw [ih₁ hnodup, ih₂ ((h₁.map Prod.fst).nodup_iff.mp hnodup)]

theorem same_none : Jcs.Same .none .none := rfl

/-- Same values have the same fields. -/
theorem same_field {v w : PyVal} (hdistinct : Jcs.distinctKeys v = true) (h : Jcs.Same v w)
    (key : String) : Jcs.Same (field v key) (field w key) := by
  cases v with
  | dict members =>
      obtain ⟨others, between, hbetween, hperm, rfl⟩ := Jcs.same_dict.mp h
      obtain ⟨hnodup, -⟩ := Jcs.distinctKeys_dict.mp hdistinct
      have hkeys : members.map Prod.fst = between.map Prod.fst :=
        Jcs.map_eq_of_forall₂ hbetween fun _ _ _ hm => hm.1
      simp only [field, Dict.get, ← get?_perm hperm (hkeys ▸ hnodup)]
      -- Member by member, either both have the key or neither has.
      unfold Dict.get?
      clear hperm hkeys hnodup hdistinct h
      induction hbetween with
      | nil => exact same_none
      | cons hm _ ih =>
          rw [List.lookup_cons, List.lookup_cons, ← hm.1]
          split
          · exact hm.2
          · exact ih
  | list xs =>
      obtain ⟨ys, -, rfl⟩ := Jcs.same_list.mp h
      exact same_none
  | none | bool | int | float | str =>
      simp only [Jcs.Same] at h
      rw [← h]
      exact same_none

theorem distinctKeys_field {v : PyVal} (h : Jcs.distinctKeys v = true) (key : String) :
    Jcs.distinctKeys (field v key) = true := by
  cases v with
  | dict members =>
      simp only [field, Dict.get, Dict.get?]
      cases hlookup : List.lookup (str key) members with
      | none => rfl
      | some w =>
          obtain ⟨before, after, rfl, -⟩ := List.lookup_eq_some_iff.mp hlookup
          exact (Jcs.distinctKeys_dict.mp h).2 (str key, w) (by simp)
  | none | bool | int | float | str | list => rfl

theorem text_same {v w : PyVal} (h : Jcs.Same v w) : text v = text w := by
  cases v with
  | list =>
      obtain ⟨ys, -, rfl⟩ := Jcs.same_list.mp h
      rfl
  | dict =>
      obtain ⟨others, between, -, -, rfl⟩ := Jcs.same_dict.mp h
      rfl
  | none | bool | int | float | str =>
      simp only [Jcs.Same] at h
      rw [h]

theorem integer_same {v w : PyVal} (h : Jcs.Same v w) : integer v = integer w := by
  cases v with
  | list =>
      obtain ⟨ys, -, rfl⟩ := Jcs.same_list.mp h
      rfl
  | dict =>
      obtain ⟨others, between, -, -, rfl⟩ := Jcs.same_dict.mp h
      rfl
  | none | bool | int | float | str =>
      simp only [Jcs.Same] at h
      rw [h]

theorem items_same {v w : PyVal} (h : Jcs.Same v w) :
    List.Forall₂ Jcs.Same (items v) (items w) := by
  cases v with
  | list =>
      obtain ⟨ys, hys, rfl⟩ := Jcs.same_list.mp h
      exact hys
  | dict =>
      obtain ⟨others, between, -, -, rfl⟩ := Jcs.same_dict.mp h
      exact .nil
  | none | bool | int | float | str =>
      simp only [Jcs.Same] at h
      rw [← h]
      exact .nil

theorem distinctKeys_items {v : PyVal} (h : Jcs.distinctKeys v = true) :
    ∀ x ∈ items v, Jcs.distinctKeys x = true := by
  cases v with
  | list xs => exact Jcs.itemsDistinct_iff.mp h
  | none | bool | int | float | str | dict => exact List.forall_mem_nil _

theorem attachmentOf_same {a b : PyVal} (hdistinct : Jcs.distinctKeys a = true)
    (h : Jcs.Same a b) : attachmentOf a = attachmentOf b := by
  have htext := fun key => text_same (same_field hdistinct h key)
  simp only [attachmentOf, htext, integer_same (same_field hdistinct h "size")]

/-- The order in which the fields of an input were inserted is no part of its content. -/
theorem contentOf_same {p q : PyVal} (hdistinct : Jcs.distinctKeys p = true) (h : Jcs.Same p q)
    (messageId : PyVal) : contentOf p messageId = contentOf q messageId := by
  have hfield := same_field hdistinct h
  have htext := fun key => text_same (hfield key)
  have hbody := fun key =>
    text_same (same_field (distinctKeys_field hdistinct "body") (hfield "body") key)
  have hstrings : ∀ key, (items (field p key)).map text = (items (field q key)).map text :=
    fun key => Jcs.map_eq_of_forall₂ (items_same (hfield key)) fun _ _ _ => text_same
  have hattachments : (items (field p "attachments")).map attachmentOf =
      (items (field q "attachments")).map attachmentOf :=
    Jcs.map_eq_of_forall₂ (items_same (hfield "attachments")) fun a ha b hab =>
      attachmentOf_same (distinctKeys_items (distinctKeys_field hdistinct "attachments") a ha) hab
  simp only [contentOf, htext, hbody, hstrings, hattachments]

/-! ### The payload determines the content -/

theorem ordered_strings (xs : List PyStr) : Jcs.ordered (strings xs) = strings xs := by
  rw [strings, Jcs.ordered_list, List.map_map]
  rfl

theorem strings_inj {xs ys : List PyStr} (h : strings xs = strings ys) : xs = ys :=
  List.map_injective_iff.mpr (fun _ _ => PyVal.str.inj) (PyVal.list.inj h)

theorem Attachment.canonical_inj {a b : Attachment}
    (h : Jcs.ordered a.canonical = Jcs.ordered b.canonical) : a = b := by
  have hget := Jcs.ordered_get h
  have hname : PyVal.str a.name = .str b.name := hget (str "name")
  have hmediaType : PyVal.str a.mediaType = .str b.mediaType := hget (str "media_type")
  have hcontentRef : PyVal.str a.contentRef = .str b.contentRef := hget (str "content_ref")
  have hsha256 : PyVal.str a.sha256 = .str b.sha256 := hget (str "sha256")
  have hsize : PyVal.int a.size = .int b.size := hget (str "size")
  cases a
  cases b
  simp_all

/-- A content is determined by what a JSON parser finds in its payload. -/
theorem EmailContent.canonical_inj {c d : EmailContent}
    (h : Jcs.ordered (.dict c.canonical) = Jcs.ordered (.dict d.canonical)) : c = d := by
  have hget := Jcs.ordered_get h
  have haccount : PyVal.str c.accountHandle = .str d.accountHandle := hget (str "account_handle")
  have hto : Jcs.ordered (strings c.recipients) = Jcs.ordered (strings d.recipients) :=
    hget (str "to")
  have hcc : Jcs.ordered (strings c.cc) = Jcs.ordered (strings d.cc) := hget (str "cc")
  have hbcc : Jcs.ordered (strings c.bcc) = Jcs.ordered (strings d.bcc) := hget (str "bcc")
  have hsubject : PyVal.str c.subject = .str d.subject := hget (str "subject")
  have hbody := Jcs.ordered_get (hget (str "body"))
  have hformat : PyVal.str c.bodyFormat = .str d.bodyFormat := hbody (str "format")
  have hcontent : PyVal.str c.bodyContent = .str d.bodyContent := hbody (str "content")
  have hattachments : Jcs.ordered (.list (c.attachments.map Attachment.canonical)) =
      Jcs.ordered (.list (d.attachments.map Attachment.canonical)) := hget (str "attachments")
  have hmessageId : c.messageId = d.messageId := by
    have hid := hget (str "message_id")
    have hread : ∀ e : EmailContent, Dict.get e.canonical (str "message_id") =
        (e.messageId.map PyVal.str).getD .none := by
      intro e
      unfold EmailContent.canonical
      cases e.messageId <;> rfl
    rw [hread, hread] at hid
    cases hc : c.messageId <;> cases hd : d.messageId <;> simp_all [Jcs.ordered]
  have hsame : c.attachments = d.attachments := by
    rw [Jcs.ordered_list, Jcs.ordered_list, List.map_map, List.map_map] at hattachments
    exact List.map_injective_iff.mpr (fun _ _ => Attachment.canonical_inj)
      (PyVal.list.inj hattachments)
  rw [ordered_strings, ordered_strings] at hto hcc hbcc
  have hto := strings_inj hto
  have hcc := strings_inj hcc
  have hbcc := strings_inj hbcc
  cases c
  cases d
  simp_all

/-! ### The digest determines the content -/

/-- The bytes that are digested. -/
def canonicalBytes (prepare messageId : PyVal) : Except Exc Bytes := do
  let canonical ← buildCanonicalPayload prepare messageId
  Jcs.canonicalize (.dict canonical)

theorem payloadDigest_eq_ok {P : Platform} {prepare messageId : PyVal} {d : PyStr}
    (h : payloadDigest P prepare messageId = .ok d) :
    ∃ bytes, canonicalBytes prepare messageId = .ok bytes ∧ P.sha256Hex bytes = d := by
  obtain ⟨canonical, hcanonical, h⟩ := bind_eq_ok.mp h
  rw [canonicalBytes, hcanonical]
  unfold digest at h
  cases hbytes : Jcs.canonicalize (.dict canonical) with
  | error e =>
      rw [hbytes] at h
      cases h
  | ok bytes =>
      rw [hbytes] at h
      exact ⟨bytes, hbytes, by cases h; rfl⟩

theorem canonicalBytes_eq_ok {prepare messageId : PyVal} {bytes : Bytes}
    (h : canonicalBytes prepare messageId = .ok bytes) :
    Jcs.canonicalize (.dict (contentOf prepare messageId).canonical) = .ok bytes := by
  obtain ⟨canonical, hcanonical, h⟩ := bind_eq_ok.mp h
  rwa [← buildCanonicalPayload_eq_ok hcanonical]

/-! ### Binding -/

/-- **The digest binds the content.** Two accepted inputs have one digest exactly if they say
the same, where SHA-256 has no collision on the bytes it is given; inputs that differ in the order
of their fields alone, at any depth, say the same. -/
theorem payloadDigest_binds (P : Platform) {p q m n : PyVal} {d e : PyStr}
    (hp : payloadDigest P p m = .ok d) (hq : payloadDigest P q n = .ok e)
    (hsha : ∀ b c, canonicalBytes p m = .ok b → canonicalBytes q n = .ok c →
      P.sha256Hex b = P.sha256Hex c → b = c) :
    (d = e ↔ contentOf p m = contentOf q n) ∧
      (Jcs.distinctKeys p = true → Jcs.Same p q → m = n → d = e) := by
  obtain ⟨b, hb, rfl⟩ := payloadDigest_eq_ok hp
  obtain ⟨c, hc, rfl⟩ := payloadDigest_eq_ok hq
  have hdigest : contentOf p m = contentOf q n → P.sha256Hex b = P.sha256Hex c := by
    intro heq
    have hbytes := canonicalBytes_eq_ok hb
    rw [heq, canonicalBytes_eq_ok hc] at hbytes
    cases hbytes
    rfl
  refine ⟨⟨fun heq => ?_, hdigest⟩, fun hdistinct hsame hid => hdigest ?_⟩
  · have hbytes := hsha b c hb hc heq
    refine EmailContent.canonical_inj (Jcs.canonicalize_inj (canonicalBytes_eq_ok hb) ?_)
    rw [hbytes]
    exact canonicalBytes_eq_ok hc
  · rw [contentOf_same hdistinct hsame, hid]

/-- An input with its slots left out, and the same with empty ones and an idempotency key. -/
def sampleEmail : Dict :=
  [(str "account_handle", .str (str "gmail:a")), (str "to", strings [str "b@example.test"]),
    (str "subject", .str (str "s")),
    (str "body", .dict [(str "format", .str (str "text")), (str "content", .str (str "c"))])]

/-- The same with empty slots and an idempotency key. -/
def sampleEmail' : Dict :=
  [(str "idempotency_key", .str (str "k")), (str "cc", .list []), (str "bcc", .list [])] ++
    sampleEmail

theorem payloadDigest_binds_sample :
    ∃ d e, payloadDigest samplePlatform (.dict sampleEmail) .none = .ok d ∧
      payloadDigest samplePlatform (.dict sampleEmail') .none = .ok e ∧ d = e ∧
      payloadDigest samplePlatform (.dict sampleEmail.reverse) .none = .ok d := by
  have hsha : ∀ q, contentOf (.dict sampleEmail) .none = contentOf q .none → ∀ b c,
      canonicalBytes (.dict sampleEmail) .none = .ok b → canonicalBytes q .none = .ok c →
        samplePlatform.sha256Hex b = samplePlatform.sha256Hex c → b = c := by
    intro q hcontent b c hb hc _
    have hbytes := canonicalBytes_eq_ok hb
    rw [hcontent, canonicalBytes_eq_ok hc] at hbytes
    exact (Except.ok.inj hbytes).symm
  have hcontent : contentOf (.dict sampleEmail) .none = contentOf (.dict sampleEmail') .none := by
    decide
  have hdistinct : Jcs.distinctKeys (.dict sampleEmail) = true := by decide
  have hsame : Jcs.Same (.dict sampleEmail) (.dict sampleEmail.reverse) :=
    Jcs.same_of_ordered (by decide)
  obtain ⟨d, hd⟩ : ∃ d, payloadDigest samplePlatform (.dict sampleEmail) .none = .ok d := ⟨_, rfl⟩
  obtain ⟨e, he⟩ : ∃ e, payloadDigest samplePlatform (.dict sampleEmail') .none = .ok e := ⟨_, rfl⟩
  obtain ⟨f, hf⟩ : ∃ f, payloadDigest samplePlatform (.dict sampleEmail.reverse) .none = .ok f :=
    ⟨_, rfl⟩
  have hequal : d = f := (payloadDigest_binds samplePlatform hd hf
    (hsha _ (contentOf_same hdistinct hsame _))).2 hdistinct hsame rfl
  exact ⟨d, e, hd, he, (payloadDigest_binds samplePlatform hd he (hsha _ hcontent)).1.mpr hcontent,
    hequal ▸ hf⟩

end GmailGateway
