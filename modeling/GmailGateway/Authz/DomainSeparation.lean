import GmailGateway.Authz.Domain
import GmailGateway.Canonicalizer.RoundTrip

/-!
# GmailGateway.Authz.DomainSeparation

**What a signature is about.** A signed message is a domain tag followed by canonical JSON,
except for the agent's request binding, which has no tag. The tag ends at the last NUL of
the message, since JSON text holds none; so a message determines its artifact type, whatever
characters that type holds, and its body. A message without a tag begins with a brace and a
tag does not.
-/

namespace GmailGateway

open Python

/-! ### Tags -/

/-- The last separator of a message splits it in one way only. -/
theorem append_cons_inj {α : Type} {sep : α} {a b x y : List α} (hx : sep ∉ x) (hy : sep ∉ y)
    (h : a ++ sep :: x = b ++ sep :: y) : a = b ∧ x = y := by
  -- If one tag were longer, the rest of it, separator included, would be in the other body.
  have hlonger : ∀ {a b x y : List α}, sep ∉ x → ∀ l, b = a ++ l → sep :: x = l ++ sep :: y →
      l = [] := by
    intro a b x y hx l _ heq
    cases l with
    | nil => rfl
    | cons c l =>
        rw [List.cons_append] at heq
        obtain ⟨-, hrest⟩ := List.cons.inj heq
        exact absurd (hrest ▸ List.mem_append_right l List.mem_cons_self) hx
  rcases List.append_eq_append_iff.mp h with ⟨l, hb, heq⟩ | ⟨l, ha, heq⟩
  · have hnil := hlonger hx l hb heq
    subst hnil
    rw [List.append_nil] at hb
    exact ⟨hb.symm, (List.cons.inj heq).2⟩
  · have hnil := hlonger hy l ha heq
    subst hnil
    rw [List.append_nil] at ha
    exact ⟨ha, (List.cons.inj heq).2.symm⟩

/-- A domain tag without its final NUL. -/
def tagText (artifactType : String) : Bytes :=
  (str "puffo-authz/").flatMap CodePoint.utf8 ++ (str artifactType).flatMap CodePoint.utf8 ++
    (str "/v1").flatMap CodePoint.utf8

theorem domainTag_append (artifactType : String) (bytes : Bytes) :
    domainTag artifactType ++ bytes = tagText artifactType ++ 0 :: bytes := by
  have hend : (str "/v1\x00").flatMap CodePoint.utf8 = (str "/v1").flatMap CodePoint.utf8 ++ [0] := by
    decide
  simp only [domainTag, tagText, hend, List.append_assoc, List.singleton_append]

theorem tagText_inj {t₁ t₂ : String} (h : tagText t₁ = tagText t₂) : t₁ = t₂ := by
  have hutf8 : (str t₁).flatMap CodePoint.utf8 = (str t₂).flatMap CodePoint.utf8 :=
    List.append_cancel_left (List.append_cancel_right h)
  have hencoded := encodeUtf8_str t₂
  rw [← hutf8] at hencoded
  exact str_inj (encodeUtf8_inj (encodeUtf8_str t₁) hencoded)

/-- A message determines its type and its body. -/
theorem signingInput_inj {t₁ t₂ : String} {b₁ b₂ : Dict} {message : Bytes}
    (h₁ : signingInput t₁ b₁ = .ok message) (h₂ : signingInput t₂ b₂ = .ok message) :
    t₁ = t₂ ∧ Jcs.ordered (.dict b₁) = Jcs.ordered (.dict b₂) := by
  obtain ⟨bytes₁, hbytes₁, hmessage₁⟩ := signingInput_eq_ok.mp h₁
  obtain ⟨bytes₂, hbytes₂, hmessage₂⟩ := signingInput_eq_ok.mp h₂
  rw [domainTag_append] at hmessage₁ hmessage₂
  obtain ⟨htag, hbytes⟩ := append_cons_inj (Jcs.canonicalize_noNul hbytes₁)
    (Jcs.canonicalize_noNul hbytes₂) (hmessage₁.symm.trans hmessage₂)
  exact ⟨tagText_inj htag, Jcs.canonicalize_inj hbytes₁ (hbytes ▸ hbytes₂)⟩

/-- A tagged message does not begin like an object. -/
theorem signingInput_head {t : String} {b : Dict} {message : Bytes}
    (h : signingInput t b = .ok message) : message.head? = some 0x70 := by
  obtain ⟨bytes, -, rfl⟩ := signingInput_eq_ok.mp h
  rfl

/-! ### Roles -/

/-- What a signature can be about. -/
inductive SignedRole
  | grant
  | authzState
  | authzRevocation
  | decision
  | requestBinding
  deriving DecidableEq, Repr

/-- The messages signed in each role. -/
def SignedRole.Message : SignedRole → Bytes → Prop
  | grant, message => ∃ body, signingInput "grant" body = .ok message
  | authzState, message => ∃ body, signingInput headArtifactType body = .ok message
  | authzRevocation, message => ∃ body, signingInput revocationArtifactType body = .ok message
  | decision, message => ∃ d, decisionSigningInput d = .ok message
  | requestBinding, message => ∃ grantId requestId actionDigest issuedAt channelBinding,
      GmailGateway.requestBinding grantId requestId actionDigest issuedAt channelBinding =
        .ok message

/-- The artifact type in a role's domain tag. -/
def SignedRole.tag? : SignedRole → Option String
  | grant => some "grant"
  | authzState => some headArtifactType
  | authzRevocation => some revocationArtifactType
  | decision => some "decision"
  | requestBinding => none

theorem SignedRole.tag?_inj : ∀ r₁ r₂ : SignedRole, r₁.tag? = r₂.tag? → r₁ = r₂ := by
  intro r₁ r₂ h
  cases r₁ <;> cases r₂ <;> first | rfl | exact absurd h (by decide)

/-- A message is a signing input of its role's type, or an object where there is none. -/
theorem SignedRole.Message.shape {r : SignedRole} {message : Bytes} (h : r.Message message) :
    (∃ t body, r.tag? = some t ∧ signingInput t body = .ok message) ∨
      r.tag? = none ∧ message.head? = some 0x7B := by
  cases r with
  | grant | authzState | authzRevocation =>
      obtain ⟨body, h⟩ := h
      exact .inl ⟨_, body, rfl, h⟩
  | decision =>
      obtain ⟨d, h⟩ := h
      exact .inl ⟨_, decisionBody d, rfl, h⟩
  | requestBinding =>
      obtain ⟨grantId, requestId, actionDigest, issuedAt, channelBinding, h⟩ := h
      exact .inr ⟨rfl, Jcs.canonicalize_dict_head h⟩

/-- No message belongs to two roles. -/
theorem SignedRole.Message.role_eq {r₁ r₂ : SignedRole} {message : Bytes}
    (h₁ : r₁.Message message) (h₂ : r₂.Message message) : r₁ = r₂ := by
  have htagged : ∀ {t body}, signingInput t body = .ok message → message.head? ≠ some 0x7B := by
    intro t body h
    rw [signingInput_head h]
    decide
  refine SignedRole.tag?_inj r₁ r₂ ?_
  rcases h₁.shape with ⟨t₁, b₁, ht₁, hm₁⟩ | ⟨ht₁, hm₁⟩ <;>
    rcases h₂.shape with ⟨t₂, b₂, ht₂, hm₂⟩ | ⟨ht₂, hm₂⟩
  · rw [ht₁, ht₂, (signingInput_inj hm₁ hm₂).1]
  · exact absurd hm₂ (htagged hm₁)
  · exact absurd hm₁ (htagged hm₂)
  · rw [ht₁, ht₂]

/-- **Domain separation.** Equal signing inputs are of one type and, up to the order of
members, one body; and a message of one role is never a message of another. -/
theorem signing_separated :
    (∀ (t₁ t₂ : String) (b₁ b₂ : Dict) (message : Bytes), signingInput t₁ b₁ = .ok message →
      signingInput t₂ b₂ = .ok message →
        t₁ = t₂ ∧ Jcs.ordered (.dict b₁) = Jcs.ordered (.dict b₂)) ∧
    ∀ (r₁ r₂ : SignedRole) (message : Bytes), r₁.Message message → r₂.Message message →
      r₁ = r₂ :=
  ⟨fun _ _ _ _ _ h₁ h₂ => signingInput_inj h₁ h₂, fun _ _ _ h₁ h₂ => h₁.role_eq h₂⟩

/-- A type may hold the end of another's tag. -/
example : (signingInput "a" []).toOption ≠ (signingInput "a/v1\x00b" []).toOption := by decide

end GmailGateway
