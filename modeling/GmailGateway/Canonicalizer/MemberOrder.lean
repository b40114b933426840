import GmailGateway.Authz.DomainSeparation
import GmailGateway.Python.Utf16

/-!
# GmailGateway.Canonicalizer.MemberOrder

**Objects are maps.** Two values are the `Same` when they differ only in the order of the
members of their objects, at any depth. Values with the same canonical bytes are the same,
and values that are the same have the same canonical bytes, in which the members of every
object ascend strictly in the UTF-16 code units of their keys.

Both directions go through `ordered`, the value with its members in the order of
serialization: `Same` values of the domain have one ordered form, because distinct keys never
tie in that order.
-/

namespace GmailGateway

open Python

namespace Jcs

/-! ### Values up to the order of members -/

mutual

/-- Equal as JSON values: lists item by item, objects as maps. -/
def Same : PyVal → PyVal → Prop
  | .list xs, w => ∃ ys, SameItems xs ys ∧ w = .list ys
  | .dict members, w =>
      ∃ others between, SameMembers members between ∧ between.Perm others ∧ w = .dict others
  | v, w => v = w

/-- The same, item by item. -/
def SameItems : List PyVal → List PyVal → Prop
  | [], ys => ys = []
  | x :: xs, ys => ∃ y ys', Same x y ∧ SameItems xs ys' ∧ ys = y :: ys'

/-- The same keys in the same order, with the same values. -/
def SameMembers : List (PyStr × PyVal) → List (PyStr × PyVal) → Prop
  | [], others => others = []
  | (key, v) :: members, others =>
      ∃ w others', Same v w ∧ SameMembers members others' ∧ others = (key, w) :: others'

/-- No object has two members with one key, at any depth: the values are those of Python,
where an object is a dict. -/
def distinctKeys : PyVal → Bool
  | .list xs => itemsDistinct xs
  | .dict members => decide (members.map Prod.fst).Nodup && membersDistinct members
  | _ => true

/-- So in every item. -/
def itemsDistinct : List PyVal → Bool
  | [] => true
  | x :: xs => distinctKeys x && itemsDistinct xs

/-- So in every value. -/
def membersDistinct : List (PyStr × PyVal) → Bool
  | [] => true
  | (_, v) :: members => distinctKeys v && membersDistinct members

/-- The members of every object ascend strictly in the code units of their keys. -/
def Ascending : PyVal → Prop
  | .list xs => AscendingItems xs
  | .dict members =>
      members.Pairwise (fun m n => codeUnits m.1 < codeUnits n.1) ∧ AscendingMembers members
  | _ => True

/-- So in every item. -/
def AscendingItems : List PyVal → Prop
  | [] => True
  | x :: xs => Ascending x ∧ AscendingItems xs

/-- So in every value. -/
def AscendingMembers : List (PyStr × PyVal) → Prop
  | [] => True
  | (_, v) :: members => Ascending v ∧ AscendingMembers members

end

/-- Members with the same key and the same value. -/
def SameMember (m n : PyStr × PyVal) : Prop := m.1 = n.1 ∧ Same m.2 n.2

theorem sameItems_iff {xs ys : List PyVal} : SameItems xs ys ↔ List.Forall₂ Same xs ys := by
  induction xs generalizing ys with
  | nil => rw [SameItems, List.forall₂_nil_left_iff]
  | cons x xs ih => simp only [SameItems, ih, List.forall₂_cons_left_iff]

theorem sameMembers_iff {members others : List (PyStr × PyVal)} :
    SameMembers members others ↔ List.Forall₂ SameMember members others := by
  induction members generalizing others with
  | nil => rw [SameMembers, List.forall₂_nil_left_iff]
  | cons m members ih =>
      simp only [SameMembers, ih, List.forall₂_cons_left_iff, SameMember]
      constructor
      · intro ⟨w, others', hw, hothers, heq⟩
        exact ⟨(m.1, w), others', ⟨rfl, hw⟩, hothers, heq⟩
      · intro ⟨n, others', ⟨hkey, hw⟩, hothers, heq⟩
        exact ⟨n.2, others', hw, hothers, by rw [heq, hkey]⟩

theorem same_list {xs : List PyVal} {w : PyVal} :
    Same (.list xs) w ↔ ∃ ys, List.Forall₂ Same xs ys ∧ w = .list ys := by
  simp only [Same, sameItems_iff]

theorem same_dict {members : Dict} {w : PyVal} :
    Same (.dict members) w ↔
      ∃ others between, List.Forall₂ SameMember members between ∧ between.Perm others ∧
        w = .dict others := by
  simp only [Same, sameMembers_iff]

theorem itemsDistinct_iff {xs : List PyVal} :
    itemsDistinct xs = true ↔ ∀ x ∈ xs, distinctKeys x = true := by
  induction xs with
  | nil => simp [itemsDistinct]
  | cons x xs ih => simp [itemsDistinct, ih]

theorem membersDistinct_iff {members : Dict} :
    membersDistinct members = true ↔ ∀ m ∈ members, distinctKeys m.2 = true := by
  induction members with
  | nil => simp [membersDistinct]
  | cons m members ih => simp [membersDistinct, ih]

theorem distinctKeys_dict {members : Dict} :
    distinctKeys (.dict members) = true ↔
      (members.map Prod.fst).Nodup ∧ ∀ m ∈ members, distinctKeys m.2 = true := by
  rw [distinctKeys, Bool.and_eq_true, decide_eq_true_iff, membersDistinct_iff]

theorem ascendingItems_iff {xs : List PyVal} : AscendingItems xs ↔ ∀ x ∈ xs, Ascending x := by
  induction xs with
  | nil => simp [AscendingItems]
  | cons x xs ih => simp [AscendingItems, ih]

theorem ascendingMembers_iff {members : Dict} :
    AscendingMembers members ↔ ∀ m ∈ members, Ascending m.2 := by
  induction members with
  | nil => simp [AscendingMembers]
  | cons m members ih => simp [AscendingMembers, ih]

/-! ### The order of keys -/

theorem utf16SortKey_eq {key : PyStr} (h : Encodable key) :
    utf16SortKey key = (codeUnits key).flatMap unitBytes := by
  rw [utf16SortKey, encodeUtf16be_eq h]
  rfl

/-- Sort keys are compared as code units. -/
theorem keyLe_iff {β : Type} {m n : PyStr × β} (hm : Encodable m.1) (hn : Encodable n.1) :
    KeyLe m n ↔ ¬ codeUnits n.1 < codeUnits m.1 := by
  rw [KeyLe, utf16SortKey_eq hm, utf16SortKey_eq hn, ← List.not_lt, utf16Bytes_lt]

/-- Distinct keys never tie. -/
theorem key_eq_of_keyLe {β : Type} {m n : PyStr × β} (hm : Encodable m.1) (hn : Encodable n.1)
    (hle : KeyLe m n) (hge : KeyLe n m) : m.1 = n.1 :=
  codeUnits_injective hm hn
    (le_antisymm (not_lt.mp ((keyLe_iff hm hn).mp hle)) (not_lt.mp ((keyLe_iff hn hm).mp hge)))

theorem sortedMembers_pairwise (members : Dict) : (sortedMembers members).Pairwise KeyLe := by
  have htotal : Std.Total (@KeyLe PyVal) := ⟨fun m n => List.le_total _ _⟩
  have htrans : IsTrans _ (@KeyLe PyVal) := ⟨fun _ _ _ h₁ h₂ => List.le_trans h₁ h₂⟩
  exact List.pairwise_insertionSort KeyLe members

/-- Sorting sorted members changes nothing. -/
theorem sortedMembers_idem (members : Dict) :
    sortedMembers (sortedMembers members) = sortedMembers members :=
  (sortedMembers_pairwise members).insertionSort_eq

/-- Members with distinct keys have one sorted order. -/
theorem sortedMembers_perm {members others : Dict} (hperm : members.Perm others)
    (hkeys : ∀ m ∈ members, Encodable m.1) (hdistinct : (members.map Prod.fst).Nodup) :
    sortedMembers members = sortedMembers others := by
  have hboth : (sortedMembers members).Perm (sortedMembers others) :=
    ((List.perm_insertionSort KeyLe members).trans hperm).trans
      (List.perm_insertionSort KeyLe others).symm
  refine List.Perm.eq_of_pairwise ?_ (sortedMembers_pairwise members)
    (sortedMembers_pairwise others) hboth
  intro m n hm hn hle hge
  have hm := mem_sortedMembers.mp hm
  have hn := hperm.mem_iff.mpr (mem_sortedMembers.mp hn)
  -- Neither comes before the other, so their keys are equal, and no other member has that key.
  have hkey := key_eq_of_keyLe (hkeys m hm) (hkeys n hn) hle hge
  exact List.inj_on_of_nodup_map hdistinct hm hn hkey

theorem sortedMembers_map (members : Dict) (f : PyVal → PyVal) :
    sortedMembers (members.map fun m => (m.1, f m.2)) =
      (sortedMembers members).map fun m => (m.1, f m.2) :=
  (List.map_insertionSort KeyLe KeyLe (fun m : PyStr × PyVal => (m.1, f m.2)) members
    fun _ _ _ _ => Iff.rfl).symm

/-! ### One ordered form -/

theorem ordered_eq_list {w : PyVal} {ys : List PyVal} (h : ordered w = .list ys) :
    ∃ xs, w = .list xs ∧ xs.map ordered = ys := by
  cases w with
  | list xs =>
      rw [ordered_list] at h
      exact ⟨xs, rfl, PyVal.list.inj h⟩
  | dict members =>
      rw [ordered] at h
      cases h
  | none | bool | int | float | str => cases h

theorem ordered_eq_dict {w : PyVal} {others : Dict} (h : ordered w = .dict others) :
    ∃ members, w = .dict members ∧
      (sortedMembers members).map (fun m => (m.1, ordered m.2)) = others := by
  cases w with
  | dict members =>
      rw [ordered_dict] at h
      exact ⟨members, rfl, PyVal.dict.inj h⟩
  | list xs =>
      rw [ordered] at h
      cases h
  | none | bool | int | float | str => cases h

/-- Lists with equal images are related item by item. -/
theorem forall₂_of_map_eq {α β γ : Type} {f : α → γ} {g : β → γ} {R : α → β → Prop} :
    ∀ {xs : List α} {ys : List β}, (∀ x ∈ xs, ∀ y, f x = g y → R x y) →
      xs.map f = ys.map g → List.Forall₂ R xs ys
  | [], [], _, _ => .nil
  | [], _ :: _, _, h => by cases h
  | _ :: _, [], _, h => by cases h
  | x :: xs, y :: ys, hR, h => by
      rw [List.map_cons, List.map_cons] at h
      obtain ⟨hhead, htail⟩ := List.cons.inj h
      exact .cons (hR x List.mem_cons_self y hhead)
        (forall₂_of_map_eq (fun z hz => hR z (List.mem_cons_of_mem x hz)) htail)

/-- Lists related item by item have equal images. -/
theorem map_eq_of_forall₂ {α β γ : Type} {f : α → γ} {g : β → γ} {R : α → β → Prop}
    {xs : List α} {ys : List β} (h : List.Forall₂ R xs ys)
    (hR : ∀ x ∈ xs, ∀ y, R x y → f x = g y) : xs.map f = ys.map g := by
  induction h with
  | nil => rfl
  | cons hxy _ ih =>
      rw [List.map_cons, List.map_cons, hR _ List.mem_cons_self _ hxy,
        ih fun x hx => hR x (List.mem_cons_of_mem _ hx)]

theorem mapM_congr {α β : Type} {f g : α → Except Exc β} {xs : List α}
    (h : ∀ x ∈ xs, f x = g x) : xs.mapM f = xs.mapM g := by
  induction xs with
  | nil => rfl
  | cons x xs ih =>
      rw [List.mapM_cons, List.mapM_cons, h x List.mem_cons_self,
        ih fun y hy => h y (List.mem_cons_of_mem x hy)]

/-- Values with one ordered form are the same. -/
theorem same_of_ordered {v w : PyVal} (h : ordered v = ordered w) : Same v w := by
  induction v generalizing w with
  | list xs ih =>
      rw [ordered_list] at h
      obtain ⟨ys, rfl, hys⟩ := ordered_eq_list h.symm
      exact same_list.mpr ⟨ys, forall₂_of_map_eq (fun x hx y heq => ih x hx heq) hys.symm, rfl⟩
  | dict members ih =>
      rw [ordered_dict] at h
      obtain ⟨others, rfl, hothers⟩ := ordered_eq_dict h.symm
      have hsorted : List.Forall₂ SameMember (sortedMembers members) (sortedMembers others) := by
        refine forall₂_of_map_eq (fun m hm n heq => ?_) hothers.symm
        obtain ⟨hkey, hvalue⟩ := Prod.mk.inj heq
        exact ⟨hkey, ih m (mem_sortedMembers.mp hm) hvalue⟩
      -- The members, moved into the order of the others, are the others one by one.
      obtain ⟨between, hbetween, hperm⟩ :=
        List.perm_comp_forall₂ (List.perm_insertionSort KeyLe members).symm hsorted
      exact same_dict.mpr ⟨others, between, hbetween,
        hperm.trans (List.perm_insertionSort KeyLe others), rfl⟩
  | none | bool b | int i | float f | str s =>
      cases w with
      | none | bool | int | float | str => exact h
      | list ys =>
          obtain ⟨xs, hxs, -⟩ := ordered_eq_list (h.trans (ordered_list ys))
          cases hxs
      | dict others =>
          obtain ⟨members, hmembers, -⟩ := ordered_eq_dict (h.trans (ordered_dict others))
          cases hmembers

/-- Ordering twice is ordering once. -/
theorem ordered_idem (v : PyVal) : ordered (ordered v) = ordered v := by
  induction v with
  | list xs ih =>
      rw [ordered_list, ordered_list, List.map_map]
      exact congrArg PyVal.list (List.map_congr_left ih)
  | dict members ih =>
      rw [ordered_dict, ordered_dict, sortedMembers_map, sortedMembers_idem, List.map_map]
      refine congrArg PyVal.dict (List.map_congr_left fun m hm => ?_)
      exact Prod.ext rfl (ih m (mem_sortedMembers.mp hm))
  | none | bool | int | float | str => rfl

/-- A value and its ordered form are the same. -/
theorem same_ordered (v : PyVal) : Same v (ordered v) := same_of_ordered (ordered_idem v).symm

/-- The same values of the domain have one ordered form. -/
theorem ordered_of_same {v w : PyVal} (hdomain : inDomain v = true)
    (hdistinct : distinctKeys v = true) (h : Same v w) : ordered v = ordered w := by
  induction v generalizing w with
  | list xs ih =>
      obtain ⟨ys, hys, rfl⟩ := same_list.mp h
      rw [inDomain, itemsInDomain_iff] at hdomain
      rw [distinctKeys, itemsDistinct_iff] at hdistinct
      rw [ordered_list, ordered_list]
      refine congrArg PyVal.list (map_eq_of_forall₂ hys fun x hx y hxy => ?_)
      exact ih x hx (hdomain x hx) (hdistinct x hx) hxy
  | dict members ih =>
      obtain ⟨others, between, hbetween, hperm, rfl⟩ := same_dict.mp h
      rw [inDomain, membersInDomain_iff] at hdomain
      obtain ⟨hnodup, hdistinct⟩ := distinctKeys_dict.mp hdistinct
      -- One by one the members have equal ordered values, so moving them is all that is left.
      have hmap : members.map (fun m => (m.1, ordered m.2)) =
          between.map fun m => (m.1, ordered m.2) :=
        map_eq_of_forall₂ hbetween fun m hm n hmn =>
          Prod.ext hmn.1 (ih m hm (hdomain m hm).2 (hdistinct m hm) hmn.2)
      rw [ordered_dict, ordered_dict, ← sortedMembers_map, ← sortedMembers_map]
      refine congrArg PyVal.dict (sortedMembers_perm (hmap ▸ hperm.map _) ?_ ?_)
      · intro m hm
        obtain ⟨n, hn, rfl⟩ := List.mem_map.mp hm
        exact (hdomain n hn).1
      · rw [List.map_map]
        exact hnodup
  | none | bool b | int i | float f | str s =>
      simp only [Same] at h
      rw [h]

/-! ### The canonical bytes -/

/-- Serializing depends on the ordered form only. -/
theorem serialize_ordered (v : PyVal) : serialize (ordered v) = serialize v := by
  induction v with
  | list xs ih =>
      rw [ordered_list, serialize_list, serialize_list, joined, joined, List.mapM_map]
      have hparts : xs.mapM (serialize ∘ ordered) = xs.mapM serialize := mapM_congr ih
      rw [hparts]
  | dict members ih =>
      have hkeys : (∀ m ∈ (sortedMembers members).map fun m => (m.1, ordered m.2), Encodable m.1) ↔
          ∀ m ∈ members, Encodable m.1 := by
        simp only [List.forall_mem_map, mem_sortedMembers]
      have hparts : (sortedMembers members).mapM (memberText ∘ fun m => (m.1, ordered m.2)) =
          (sortedMembers members).mapM memberText :=
        mapM_congr fun m hm => by
          simp only [Function.comp_apply, memberText, ih m (mem_sortedMembers.mp hm)]
      rw [ordered_dict, serialize_dict, serialize_dict, sortedMembers_map, sortedMembers_idem,
        joined, joined, List.mapM_map, hparts]
      simp only [hkeys]
  | none | bool | int | float | str => rfl

theorem canonicalize_of_ordered {v w : PyVal} (h : ordered v = ordered w) :
    canonicalize v = canonicalize w := by
  rw [canonicalize, canonicalize, ← serialize_ordered v, ← serialize_ordered w, h]

/-- In the ordered form of a value of the domain, members ascend. -/
theorem ascending_ordered {v : PyVal} (hdomain : inDomain v = true)
    (hdistinct : distinctKeys v = true) : Ascending (ordered v) := by
  induction v with
  | list xs ih =>
      rw [inDomain, itemsInDomain_iff] at hdomain
      rw [distinctKeys, itemsDistinct_iff] at hdistinct
      rw [ordered_list, Ascending, ascendingItems_iff, List.forall_mem_map]
      exact fun x hx => ih x hx (hdomain x hx) (hdistinct x hx)
  | dict members ih =>
      rw [inDomain, membersInDomain_iff] at hdomain
      obtain ⟨hnodup, hdistinct⟩ := distinctKeys_dict.mp hdistinct
      have hmem : ∀ m ∈ sortedMembers members, m ∈ members := fun m => mem_sortedMembers.mp
      rw [ordered_dict, Ascending, ascendingMembers_iff, List.pairwise_map, List.forall_mem_map]
      refine ⟨?_, fun m hm => ih m (hmem m hm) (hdomain m (hmem m hm)).2 (hdistinct m (hmem m hm))⟩
      have hne : (sortedMembers members).Pairwise fun m n => m.1 ≠ n.1 :=
        List.pairwise_map.mp (((List.perm_insertionSort KeyLe members).map Prod.fst).nodup_iff.mpr
          hnodup)
      refine ((sortedMembers_pairwise members).and hne).imp_of_mem ?_
      intro m n hm hn hkeys
      obtain ⟨hle, hkey⟩ := hkeys
      have hm := (hdomain m (hmem m hm)).1
      have hn := (hdomain n (hmem n hn)).1
      -- Ascending, and strictly so, because equal code units are equal keys.
      refine lt_of_le_of_ne (not_lt.mp ((keyLe_iff hm hn).mp hle)) fun heq => ?_
      exact hkey (codeUnits_injective hm hn heq)
  | none | bool | int | float | str => trivial

section
variable (toFloat : PyStr → PyFloat)

/-- Canonical bytes are read back as the same value. -/
theorem parse_canonicalize_same {v : PyVal} (h : inDomain v = true) :
    ∃ bytes w, canonicalize v = .ok bytes ∧
      (decodeUtf8 bytes).bind (Json.parse toFloat) = some w ∧ Same v w := by
  obtain ⟨bytes, hbytes⟩ := canonicalize_isOk.mp h
  exact ⟨bytes, ordered v, hbytes, parse_canonicalize toFloat hbytes, same_ordered v⟩

/-- **Faithful encoding.** A JSON parser reads the canonical bytes of a value of the domain
back as the same value; so values of the domain with equal bytes are the same, and artifacts
with equal signing inputs have one type and the same body. -/
theorem canonicalize_faithful :
    (∀ v, inDomain v = true → ∃ bytes w, canonicalize v = .ok bytes ∧
      (decodeUtf8 bytes).bind (Json.parse toFloat) = some w ∧ Same v w) ∧
    (∀ u v, inDomain u = true → inDomain v = true → canonicalize u = canonicalize v →
      Same u v) ∧
    ∀ (t₁ t₂ : String) (b₁ b₂ : Dict) (message : Bytes), signingInput t₁ b₁ = .ok message →
      signingInput t₂ b₂ = .ok message → t₁ = t₂ ∧ Same (.dict b₁) (.dict b₂) := by
  refine ⟨fun v h => parse_canonicalize_same toFloat h, ?_, ?_⟩
  · intro u v hu _ heq
    obtain ⟨bytes, hbytes⟩ := canonicalize_isOk.mp hu
    exact same_of_ordered (canonicalize_inj hbytes (heq ▸ hbytes))
  · intro t₁ t₂ b₁ b₂ message h₁ h₂
    obtain ⟨htype, hbody⟩ := signingInput_inj h₁ h₂
    exact ⟨htype, same_of_ordered hbody⟩

/-- An object whose keys are ordered one way by code point and the other way by code unit, and
the same object with its members the other way round. -/
def sampleObject : Dict :=
  [(str "｡", .list [.int (-7), .str (str "a\n")]), (str "𝄞", .none)]

/-- Keys in the order of their code units, which is not that of their code points. -/
def sampleReversed : Dict :=
  [(str "𝄞", .none), (str "｡", .list [.int (-7), .str (str "a\n")])]

theorem sample_canonicalize :
    canonicalize (.dict sampleObject) = canonicalize (.dict sampleReversed) := by
  rfl

theorem canonicalize_faithful_sample :
    (∃ bytes w, canonicalize (.dict sampleObject) = .ok bytes ∧
      (decodeUtf8 bytes).bind (Json.parse fun _ => .nan) = some w ∧ Same (.dict sampleObject) w) ∧
    Same (.dict sampleObject) (.dict sampleReversed) := by
  obtain ⟨hparse, hinj, -⟩ := canonicalize_faithful fun _ => .nan
  exact ⟨hparse _ (by decide), hinj _ _ (by decide) (by decide) sample_canonicalize⟩

/-- **Member order.** In the canonical text of a value of the domain the members of every
object ascend strictly in the code units of their keys, and the order in which members were
inserted does not show. -/
theorem canonicalize_memberOrder :
    (∀ v, inDomain v = true → distinctKeys v = true → ∃ bytes w, canonicalize v = .ok bytes ∧
      (decodeUtf8 bytes).bind (Json.parse toFloat) = some w ∧ Ascending w) ∧
    ∀ v w, inDomain v = true → distinctKeys v = true → Same v w →
      canonicalize v = canonicalize w := by
  constructor
  · intro v hdomain hdistinct
    obtain ⟨bytes, hbytes⟩ := canonicalize_isOk.mp hdomain
    exact ⟨bytes, ordered v, hbytes, parse_canonicalize toFloat hbytes,
      ascending_ordered hdomain hdistinct⟩
  · intro v w hdomain hdistinct hsame
    exact canonicalize_of_ordered (ordered_of_same hdomain hdistinct hsame)

end

theorem canonicalize_memberOrder_sample :
    (∃ bytes w, canonicalize (.dict sampleObject) = .ok bytes ∧
      (decodeUtf8 bytes).bind (Json.parse fun _ => .nan) = some w ∧ Ascending w) ∧
    canonicalize (.dict sampleObject) = canonicalize (.dict sampleReversed) := by
  obtain ⟨hascending, hinsertion⟩ := canonicalize_memberOrder fun _ => .nan
  have hsame : Same (.dict sampleObject) (.dict sampleReversed) := same_of_ordered (by rfl)
  exact ⟨hascending _ (by decide) (by decide), hinsertion _ _ (by decide) (by decide) hsame⟩

end Jcs

end GmailGateway
