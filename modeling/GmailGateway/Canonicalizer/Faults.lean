import GmailGateway.Canonicalizer.Jcs

/-!
# GmailGateway.Canonicalizer.Faults

**How a value outside the domain is refused.** `JcsError` is meant to be what every such value
raises, but only numbers are checked for it. A key with an unpaired surrogate fails when the
sort encodes it, a string value with one fails when the finished text is encoded, and the
message about an integer that is too large cannot be rendered when the integer is too long.

`fault` finds what serialization stops at, in the order in which it looks; a string is no
fault there, since nothing looks at strings before the text is complete.
-/

namespace GmailGateway

open Python

namespace Jcs

/-- What serialization stops at. -/
inductive Fault
  | number
  | oversized
  | key
  deriving DecidableEq, Repr

/-- What is raised there. -/
def Fault.Raises : Fault → Exc → Prop
  | number, e => ∃ m, e = .jcsError m
  | oversized, e => e = .valueError
  | key, e => e = .unicodeEncodeError

mutual

/-- The first fault of a value. The keys of an object come before the values of its members,
and these in the order of serialization. -/
def fault : PyVal → Option Fault
  | .none | .bool _ | .str _ => none
  | .float _ => some .number
  | .int i =>
      if maxSafeInteger < |i| then
        some (if intMaxStrDigits < (natDecimal i.natAbs).length then .oversized else .number)
      else none
  | .list xs => faultOfItems xs
  | .dict members =>
      if members.any fun m => m.1.any CodePoint.isSurrogate then some .key
      else ((faultsOfMembers members).insertionSort KeyLe).findSome? fun m => m.2

def faultOfItems : List PyVal → Option Fault
  | [] => none
  | v :: vs => (fault v).or (faultOfItems vs)

/-- Every member with the first fault of its value. -/
def faultsOfMembers : List (PyStr × PyVal) → List (PyStr × Option Fault)
  | [] => []
  | (key, v) :: members => (key, fault v) :: faultsOfMembers members

end

theorem faultOfItems_eq (xs : List PyVal) : faultOfItems xs = xs.findSome? fault := by
  induction xs with
  | nil => rfl
  | cons x xs ih =>
      rw [faultOfItems, ih, List.findSome?_cons]
      cases fault x <;> rfl

theorem faultsOfMembers_eq (members : Dict) :
    faultsOfMembers members = members.map fun m => (m.1, fault m.2) := by
  induction members with
  | nil => rfl
  | cons m members ih => rw [faultsOfMembers, ih, List.map_cons]

theorem fault_dict (members : Dict) :
    fault (.dict members) =
      if ∀ m ∈ members, Encodable m.1 then (sortedMembers members).findSome? fun m => fault m.2
      else some .key := by
  have hsort : (faultsOfMembers members).insertionSort KeyLe =
      (sortedMembers members).map fun m => (m.1, fault m.2) := by
    rw [faultsOfMembers_eq, sortedMembers]
    exact (List.map_insertionSort KeyLe KeyLe (fun m : PyStr × PyVal => (m.1, fault m.2))
      members fun _ _ _ _ => Iff.rfl).symm
  rw [fault, hsort, List.findSome?_map]
  by_cases hkeys : ∀ m ∈ members, Encodable m.1
  · have hany : (members.any fun m => m.1.any CodePoint.isSurrogate) = false := by
      rw [List.any_eq_false]
      exact fun m hm => by simpa [Encodable] using hkeys m hm
    rw [hany, if_pos hkeys]
    rfl
  · have hany : (members.any fun m => m.1.any CodePoint.isSurrogate) = true := by
      rw [← Bool.not_eq_false, List.any_eq_false]
      exact fun h => hkeys fun m hm => by simpa [Encodable] using h m hm
    rw [hany, if_neg hkeys]
    rfl

/-! ### Serialization stops at the first fault -/

/-- A result that is an error exactly where there is a fault, and then the one of the fault. -/
def Agrees {α : Type} : Option Fault → Except Exc α → Prop
  | none, .ok _ => True
  | some f, .error e => f.Raises e
  | _, _ => False

theorem Agrees.map {α β : Type} {f : Option Fault} {x : Except Exc α} (h : Agrees f x)
    (g : α → β) : Agrees f (x.map g) := by
  cases f <;> cases x <;> exact h

/-- The first fault of a list of statements is the first of their faults. -/
theorem Agrees.mapM {α β : Type} {find : α → Option Fault} {run : α → Except Exc β} {xs : List α}
    (h : ∀ x ∈ xs, Agrees (find x) (run x)) : Agrees (xs.findSome? find) (xs.mapM run) := by
  induction xs with
  | nil => trivial
  | cons x xs ih =>
      have hx := h x List.mem_cons_self
      have hxs := ih fun y hy => h y (List.mem_cons_of_mem x hy)
      rw [List.findSome?_cons, List.mapM_cons]
      cases hfind : find x with
      | some f =>
          cases hrun : run x with
          | ok y => simp [hfind, hrun, Agrees] at hx
          | error e =>
              rw [hfind, hrun] at hx
              exact hx
      | none =>
          cases hrun : run x with
          | error e => simp [hfind, hrun, Agrees] at hx
          | ok y => exact hxs.map (y :: ·)

theorem Agrees.joined {α : Type} {find : α → Option Fault} {part : α → Except Exc PyStr}
    {xs : List α} (h : ∀ x ∈ xs, Agrees (find x) (part x)) (opening closing : PyStr) :
    Agrees (xs.findSome? find) (Jcs.joined opening closing part xs) :=
  (Agrees.mapM h).map fun parts => opening ++ (str ",").intercalate parts ++ closing

theorem serialize_fault (v : PyVal) : Agrees (fault v) (serialize v) := by
  induction v with
  | none | str => trivial
  | bool b => cases b <;> trivial
  | float => exact ⟨_, rfl⟩
  | int i =>
      rw [fault, serialize, serializeNumber]
      by_cases hsafe : maxSafeInteger < |i|
      · by_cases hlong : intMaxStrDigits < (natDecimal i.natAbs).length
        · simp [hsafe, hlong, Agrees, Fault.Raises]
        · simp [hsafe, hlong, Agrees, Fault.Raises]
      · simp [hsafe, Agrees]
  | list xs ih =>
      rw [fault, faultOfItems_eq, serialize_list]
      exact Agrees.joined ih _ _
  | dict members ih =>
      rw [fault_dict, serialize_dict]
      split
      case isTrue => exact Agrees.joined (fun m hm => (ih m (mem_sortedMembers.mp hm)).map _) _ _
      case isFalse => exact rfl

/-! ### The error of `canonicalize` -/

/-- A value without a fault is refused, if it is, when its text is encoded. -/
theorem canonicalize_of_fault_none {v : PyVal} (hfault : fault v = none)
    (hdomain : inDomain v = false) : canonicalize v = .error .unicodeEncodeError := by
  have hagrees := serialize_fault v
  rw [hfault] at hagrees
  cases htext : serialize v with
  | error e => simp [htext, Agrees] at hagrees
  | ok text =>
      have hnot : ∀ bytes, canonicalize v ≠ .ok bytes := by
        intro bytes hok
        rw [canonicalize_isOk.mpr ⟨bytes, hok⟩] at hdomain
        cases hdomain
      rw [canonicalize, htext] at hnot ⊢
      cases hutf8 : encodeUtf8 text with
      | none => simp [bind, Except.bind, hutf8]
      | some bytes => exact absurd (by simp [bind, Except.bind, hutf8]) (hnot bytes)

theorem canonicalize_of_fault {v : PyVal} {f : Fault} (hfault : fault v = some f) :
    ∃ e, canonicalize v = .error e ∧ f.Raises e := by
  have hagrees := serialize_fault v
  rw [hfault] at hagrees
  cases htext : serialize v with
  | ok text => simp [htext, Agrees] at hagrees
  | error e =>
      rw [htext] at hagrees
      exact ⟨e, by rw [canonicalize, htext]; rfl, hagrees⟩

/-- **Refusals.** A value is either accepted, when it is in the domain, or refused with
`JcsError`, exactly if it is in the domain or the first fault of it is a number whose message
can be rendered. -/
theorem canonicalize_refuses (v : PyVal) :
    ((∃ bytes, canonicalize v = .ok bytes) ∧ inDomain v = true ∨
      (∃ m, canonicalize v = .error (.jcsError m)) ∧ inDomain v = false) ↔
    inDomain v = true ∨ fault v = some .number := by
  cases hdomain : inDomain v with
  | true => simp [canonicalize_isOk.mp hdomain]
  | false =>
      simp only [Bool.false_eq_true, and_false, and_true, false_or]
      cases hfault : fault v with
      | none => simp [canonicalize_of_fault_none hfault hdomain]
      | some f =>
          obtain ⟨e, he, hraises⟩ := canonicalize_of_fault hfault
          rw [he]
          cases f with
          | number => simpa [Fault.Raises] using hraises
          | oversized | key => simp_all [Fault.Raises]

/-- An unpaired surrogate in a string value is refused by the encoder of the text. -/
theorem canonicalize_refuses_surrogate :
    inDomain (.str [⟨0xD800, by omega⟩]) = false ∧
      ¬ ∃ m, canonicalize (.str [⟨0xD800, by omega⟩]) = .error (.jcsError m) := by
  constructor
  · decide
  · intro ⟨m, h⟩
    rw [canonicalize_of_fault_none rfl (by decide)] at h
    cases h

end Jcs

end GmailGateway
