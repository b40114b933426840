import GmailGateway.Errors

/-!
# GmailGateway.Canonicalizer.Jcs

The RFC 8785 serializer (`canonicalizer/jcs.py`). Everything the gateway signs or
verifies goes through `canonicalize`, also what an untrusted party sent, so the two
ways it raises are kept apart: `JcsError` for a number outside the domain, and
`UnicodeEncodeError` for a string with an unpaired surrogate.

`JcsDomain` is the set of values it accepts, and `canonicalize_isOk` that it is
exactly this set.
-/

namespace GmailGateway

open Python

namespace Jcs

/-- `Number.MAX_SAFE_INTEGER`; beyond this integers are doubles. -/
def maxSafeInteger : Int := 2 ^ 53 - 1

/-- Escape `"`, `\` and the C0 controls; every other code point is literal. -/
def escape (c : CodePoint) : PyStr :=
  match c.val with
  | 0x08 => str "\\b"
  | 0x09 => str "\\t"
  | 0x0A => str "\\n"
  | 0x0C => str "\\f"
  | 0x0D => str "\\r"
  | 0x22 => str "\\\""
  | 0x5C => str "\\\\"
  | n => if n < 0x20 then str "\\u00" ++ [hexDigit (n / 16), hexDigit (n % 16)] else [c]

/-- `_serialize_string`. -/
def serializeString (s : PyStr) : PyStr := str "\"" ++ s.flatMap escape ++ str "\""

/-- `_serialize_number` of an integer. -/
def serializeNumber (i : Int) : Except Exc PyStr :=
  if maxSafeInteger < |i| then
    -- The message renders the integer, which the interpreter refuses for a very long one.
    if intMaxStrDigits < (natDecimal i.natAbs).length then .error .valueError
    else .error (.jcsError ("integer %d exceeds the ECMAScript safe-integer range and is " ++
      "out of the canonical payload number domain"))
  else .ok (decimal i)

theorem serializeNumber_eq_ok {i : Int} {text : PyStr} :
    serializeNumber i = .ok text ↔ |i| ≤ maxSafeInteger ∧ decimal i = text := by
  unfold serializeNumber
  split
  case isTrue hi => split <;> simp [hi]
  case isFalse hi => simp [not_lt.mp hi]

/-- `_utf16_sort_key` of an encodable key. -/
def utf16SortKey (key : PyStr) : Bytes := (encodeUtf16be key).getD []

/-- The order of members: by UTF-16 code units of their keys. -/
def KeyLe {β : Type} (m n : PyStr × β) : Prop := utf16SortKey m.1 ≤ utf16SortKey n.1

instance {β : Type} : DecidableRel (@KeyLe β) := fun m n =>
  inferInstanceAs (Decidable (utf16SortKey m.1 ≤ utf16SortKey n.1))

/-- Members in the order of their UTF-16 keys. All keys are encoded before any value is
serialized. -/
def sortMembers {β : Type} (members : List (PyStr × β)) : Except Exc (List (PyStr × β)) :=
  if members.any fun m => m.1.any CodePoint.isSurrogate then .error .unicodeEncodeError
  else .ok (members.insertionSort KeyLe)

mutual

/-- `_serialize`. -/
def serialize : PyVal → Except Exc PyStr
  | .none => .ok (str "null")
  | .bool true => .ok (str "true")
  | .bool false => .ok (str "false")
  | .str s => .ok (serializeString s)
  | .float _ =>
      .error (.jcsError ("non-integer number %r is out of the canonical payload number " ++
        "domain (only integer attachment sizes occur)"))
  | .int i => serializeNumber i
  | .list xs => do
      let parts ← serializeItems xs
      pure (str "[" ++ (str ",").intercalate parts ++ str "]")
  | .dict members => do
      let sorted ← sortMembers (serializeMembers members)
      let parts ← sorted.mapM fun m => m.2.map fun text => serializeString m.1 ++ str ":" ++ text
      pure (str "\x7b" ++ (str ",").intercalate parts ++ str "\x7d")

/-- The items of a list, from the left. -/
def serializeItems : List PyVal → Except Exc (List PyStr)
  | [] => .ok []
  | v :: vs => do
      let text ← serialize v
      let texts ← serializeItems vs
      pure (text :: texts)

/-- Every member with what serializing its value gives. -/
def serializeMembers : List (PyStr × PyVal) → List (PyStr × Except Exc PyStr)
  | [] => []
  | (key, v) :: members => (key, serialize v) :: serializeMembers members

end

/-- The JCS bytes of a value. -/
def canonicalize (value : PyVal) : Except Exc Bytes := do
  let text ← serialize value
  match encodeUtf8 text with
  | some bytes => .ok bytes
  | none => .error .unicodeEncodeError

example : (canonicalize (.dict [(str "b", .int (-1)), (str "a", .list [.none, .str (str "x\n")])])).toOption
    = some ("\x7b\"a\":[null,\"x\\n\"],\"b\":-1\x7d".toList.map fun c => UInt8.ofNat c.toNat) := by
  decide

/-! ### The domain -/

mutual

/-- The values with a canonical form: no float, every integer safe, every string and
every key free of surrogates. -/
def inDomain : PyVal → Bool
  | .none | .bool _ => true
  | .float _ => false
  | .int i => |i| ≤ maxSafeInteger
  | .str s => !s.any CodePoint.isSurrogate
  | .list xs => itemsInDomain xs
  | .dict members => membersInDomain members

/-- So is every item. -/
def itemsInDomain : List PyVal → Bool
  | [] => true
  | v :: vs => inDomain v && itemsInDomain vs

/-- So is every value, and the keys can be encoded. -/
def membersInDomain : List (PyStr × PyVal) → Bool
  | [] => true
  | (key, v) :: members =>
      !key.any CodePoint.isSurrogate && inDomain v && membersInDomain members

end

/-- What `canonicalize` raises, and nothing else. -/
def IsEncodingError (e : Exc) : Prop :=
  e = .unicodeEncodeError ∨ e = .valueError ∨ ∃ m, e = .jcsError m

/-- Text that UTF-8 can carry. -/
def Encodable (text : PyStr) : Prop := text.any CodePoint.isSurrogate = false

instance (text : PyStr) : Decidable (Encodable text) := inferInstanceAs (Decidable (_ = false))

@[simp] theorem encodable_append {s t : PyStr} : Encodable (s ++ t) ↔ Encodable s ∧ Encodable t := by
  simp [Encodable]

theorem encodable_flatMap {s : PyStr} {f : CodePoint → PyStr} :
    Encodable (s.flatMap f) ↔ ∀ c ∈ s, Encodable (f c) := by
  simp only [Encodable, List.any_flatMap, List.any_eq_false]
  simp

theorem encodable_intercalate {sep : PyStr} (hsep : Encodable sep) (parts : List PyStr) :
    Encodable (sep.intercalate parts) ↔ ∀ part ∈ parts, Encodable part := by
  induction parts with
  | nil => simp [List.intercalate, Encodable]
  | cons part parts ih =>
      cases parts with
      | nil => simp [List.intercalate]
      | cons part' parts =>
          rw [List.intercalate_cons_cons, encodable_append, encodable_append, ih]
          simp [hsep]

theorem encodable_hexDigits : ∀ n : Fin 32,
    Encodable (str "\\u00" ++ [hexDigit (n.val / 16), hexDigit (n.val % 16)]) := by
  decide

/-- Escaping adds ASCII only. -/
theorem encodable_escape (c : CodePoint) : Encodable (escape c) ↔ c.isSurrogate = false := by
  unfold escape
  split
  case h_8 =>
    split
    case isTrue h =>
      have hsur : c.isSurrogate = false := by
        simp only [CodePoint.isSurrogate, Bool.and_eq_false_iff, decide_eq_false_iff_not]
        omega
      exact iff_of_true (encodable_hexDigits ⟨c.val, h⟩) hsur
    case isFalse => simp [Encodable]
  all_goals
    rename_i h
    exact iff_of_true (by decide) (by simp [CodePoint.isSurrogate, h])

theorem encodable_serializeString {s : PyStr} : Encodable (serializeString s) ↔ Encodable s := by
  have hquote : Encodable (str "\"") := by decide
  simp only [serializeString, encodable_append, hquote, encodable_flatMap, encodable_escape]
  simp [Encodable]

theorem encodable_digitChar {d : Nat} (hd : d < 10) : (digitChar d).isSurrogate = false := by
  have hval : (digitChar d).val = 0x30 + d := Nat.mod_eq_of_lt (by omega)
  simp only [CodePoint.isSurrogate, hval, Bool.and_eq_false_iff, decide_eq_false_iff_not]
  omega

theorem encodable_natDecimal (n : Nat) : Encodable (natDecimal n) := by
  unfold natDecimal
  split
  · decide
  · simp only [Encodable, List.any_eq_false, List.mem_map, List.mem_reverse]
    rintro _ ⟨d, hd, rfl⟩
    simp [encodable_digitChar (Nat.digits_lt_base (by omega) hd)]

theorem encodable_decimal (i : Int) : Encodable (decimal i) := by
  cases i with
  | ofNat n => exact encodable_natDecimal n
  | negSucc n =>
      have hminus : Encodable [CodePoint.ofChar '-'] := by decide
      exact encodable_append.mpr ⟨hminus, encodable_natDecimal (n + 1)⟩

/-- A mapped list of statements succeeds when each does. -/
theorem mapM_eq_ok {α β : Type} {f : α → Except Exc β} {xs : List α} {ys : List β} :
    xs.mapM f = .ok ys ↔ List.Forall₂ (fun x y => f x = .ok y) xs ys := by
  induction xs generalizing ys with
  | nil =>
      rw [List.mapM_nil, List.forall₂_nil_left_iff]
      exact ⟨fun h => by cases h; rfl, fun h => by rw [h]; rfl⟩
  | cons x xs ih =>
      rw [List.mapM_cons, bind_eq_ok, List.forall₂_cons_left_iff]
      constructor
      · intro hspec
        obtain ⟨y, hy, h⟩ := hspec
        obtain ⟨zs, hzs, hys⟩ := bind_eq_ok.mp h
        cases hys
        exact ⟨y, zs, hy, ih.mp hzs, rfl⟩
      · intro hspec
        obtain ⟨y, zs, hy, hzs, rfl⟩ := hspec
        exact ⟨y, hy, bind_eq_ok.mpr ⟨zs, ih.mpr hzs, rfl⟩⟩

theorem mapM_eq_error {α β : Type} {f : α → Except Exc β} {xs : List α} {e : Exc}
    (h : xs.mapM f = .error e) : ∃ x ∈ xs, f x = .error e := by
  induction xs with
  | nil => cases h
  | cons x xs ih =>
      rw [List.mapM_cons] at h
      rcases bind_eq_error.mp h with h | ⟨y, -, h⟩
      · exact ⟨x, List.mem_cons_self, h⟩
      · rcases bind_eq_error.mp h with h | ⟨ys, -, h⟩
        · obtain ⟨x', hx', h⟩ := ih h
          exact ⟨x', List.mem_cons_of_mem _ hx', h⟩
        · cases h

theorem serializeMembers_eq (members : List (PyStr × PyVal)) :
    serializeMembers members = members.map fun m => (m.1, serialize m.2) := by
  induction members with
  | nil => rfl
  | cons m members ih => rw [serializeMembers, ih, List.map_cons]

theorem serializeItems_eq (xs : List PyVal) : serializeItems xs = xs.mapM serialize := by
  induction xs with
  | nil => rfl
  | cons x xs ih => rw [serializeItems, ih, List.mapM_cons]

/-- Members in serialization order. -/
def sortedMembers (members : List (PyStr × PyVal)) : List (PyStr × PyVal) :=
  members.insertionSort KeyLe

theorem mem_sortedMembers {members : List (PyStr × PyVal)} {m : PyStr × PyVal} :
    m ∈ sortedMembers members ↔ m ∈ members :=
  (List.perm_insertionSort _ _).mem_iff

/-- The text of one member. -/
def memberText (m : PyStr × PyVal) : Except Exc PyStr :=
  (serialize m.2).map fun text => serializeString m.1 ++ str ":" ++ text

/-- The parts of a list or an object, between its brackets. -/
def joined {α : Type} (opening closing : PyStr) (part : α → Except Exc PyStr) (xs : List α) :
    Except Exc PyStr := do
  let parts ← xs.mapM part
  pure (opening ++ (str ",").intercalate parts ++ closing)

theorem serialize_list (xs : List PyVal) :
    serialize (.list xs) = joined (str "[") (str "]") serialize xs := by
  rw [serialize, serializeItems_eq, joined]

/-- An object: its keys are encoded first, then its members serialized in order. -/
theorem serialize_dict (members : List (PyStr × PyVal)) :
    serialize (.dict members) =
      if ∀ m ∈ members, Encodable m.1 then
        joined (str "\x7b") (str "\x7d") memberText (sortedMembers members)
      else .error .unicodeEncodeError := by
  have hany : ((serializeMembers members).any fun m => m.1.any CodePoint.isSurrogate) = false ↔
      ∀ m ∈ members, Encodable m.1 := by
    simp [serializeMembers_eq, List.any_eq_false, Encodable]
  have hsort : (serializeMembers members).insertionSort KeyLe =
      (sortedMembers members).map fun m => (m.1, serialize m.2) := by
    rw [serializeMembers_eq, sortedMembers]
    exact (List.map_insertionSort KeyLe KeyLe (fun m : PyStr × PyVal => (m.1, serialize m.2))
      members fun _ _ _ _ => Iff.rfl).symm
  rw [serialize, sortMembers]
  split
  case isTrue h =>
    rw [if_neg fun hkeys => by rw [hany.mpr hkeys] at h; cases h]
    rfl
  case isFalse h =>
    rw [if_pos (hany.mp (by simpa using h)), hsort]
    have hmap : ((sortedMembers members).map fun m => (m.1, serialize m.2)).mapM
        (fun m => m.2.map fun text => serializeString m.1 ++ str ":" ++ text) =
        (sortedMembers members).mapM memberText := by
      rw [List.mapM_map]
      rfl
    simp only [joined, bind, Except.bind, hmap]

theorem membersInDomain_iff {members : List (PyStr × PyVal)} :
    membersInDomain members = true ↔ ∀ m ∈ members, Encodable m.1 ∧ inDomain m.2 = true := by
  induction members with
  | nil => simp [membersInDomain]
  | cons m members ih => simp [membersInDomain, ih, Encodable, and_assoc]

theorem itemsInDomain_iff {xs : List PyVal} :
    itemsInDomain xs = true ↔ ∀ x ∈ xs, inDomain x = true := by
  induction xs with
  | nil => simp [itemsInDomain]
  | cons x xs ih => simp [itemsInDomain, ih]

/-- A list of statements all of which succeed succeeds. -/
theorem mapM_ok_of_forall {α β : Type} {f : α → Except Exc β} {xs : List α}
    (h : ∀ x ∈ xs, ∃ y, f x = .ok y) : ∃ ys, xs.mapM f = .ok ys := by
  cases hxs : xs.mapM f with
  | ok ys => exact ⟨ys, rfl⟩
  | error e =>
      obtain ⟨x, hx, he⟩ := mapM_eq_error hxs
      obtain ⟨y, hy⟩ := h x hx
      rw [hy] at he
      cases he

theorem exists_of_forall₂ {α β : Type} {R : α → β → Prop} {xs : List α} {ys : List β}
    (h : List.Forall₂ R xs ys) {x : α} (hx : x ∈ xs) : ∃ y ∈ ys, R x y := by
  induction h with
  | nil => cases hx
  | cons hr _ ih =>
      rcases List.mem_cons.mp hx with rfl | hx
      · exact ⟨_, List.mem_cons_self, hr⟩
      · obtain ⟨y, hy, hr⟩ := ih hx
        exact ⟨y, List.mem_cons_of_mem _ hy, hr⟩

theorem exists_of_forall₂' {α β : Type} {R : α → β → Prop} {xs : List α} {ys : List β}
    (h : List.Forall₂ R xs ys) {y : β} (hy : y ∈ ys) : ∃ x ∈ xs, R x y :=
  exists_of_forall₂ h.flip hy

/-- The parts of an encodable text are encodable, and conversely. -/
theorem joined_domain {α : Type} {opening closing : PyStr} {part : α → Except Exc PyStr}
    {xs : List α} (hopening : Encodable opening) (hclosing : Encodable closing) :
    (∃ text, joined opening closing part xs = .ok text ∧ Encodable text) ↔
      ∀ x ∈ xs, ∃ text, part x = .ok text ∧ Encodable text := by
  have hcomma : Encodable (str ",") := by decide
  constructor
  · rintro ⟨text, htext, henc⟩ x hx
    obtain ⟨parts, hparts, htext⟩ := bind_eq_ok.mp htext
    cases htext
    simp only [encodable_append, encodable_intercalate hcomma] at henc
    obtain ⟨text, htext, hpart⟩ := exists_of_forall₂ (mapM_eq_ok.mp hparts) hx
    exact ⟨text, hpart, henc.1.2 text htext⟩
  · intro hall
    obtain ⟨parts, hparts⟩ := mapM_ok_of_forall fun x hx => (hall x hx).imp fun _ h => h.1
    refine ⟨_, by rw [joined, hparts]; rfl, ?_⟩
    simp only [encodable_append, encodable_intercalate hcomma, hopening, hclosing, and_true,
      true_and]
    intro text htext
    obtain ⟨x, hx, hpart⟩ := exists_of_forall₂' (mapM_eq_ok.mp hparts) htext
    obtain ⟨text', hpart', henc⟩ := hall x hx
    rw [hpart] at hpart'
    cases hpart'
    exact henc

theorem joined_error {α : Type} {opening closing : PyStr} {part : α → Except Exc PyStr}
    {xs : List α} {e : Exc} (h : joined opening closing part xs = .error e) :
    ∃ x ∈ xs, part x = .error e := by
  rcases bind_eq_error.mp h with h | ⟨parts, -, h⟩
  · exact mapM_eq_error h
  · cases h

/-- What serializing a value comes to: in the domain, a text UTF-8 can carry; outside it,
such a text is not reached, and what is raised is an encoding error. -/
structure SerializeSpec (v : PyVal) : Prop where
  domain : inDomain v = true ↔ ∃ text, serialize v = .ok text ∧ Encodable text
  raises : ∀ e, serialize v = .error e → IsEncodingError e

theorem memberText_domain {m : PyStr × PyVal} (h : SerializeSpec m.2) :
    (∃ text, memberText m = .ok text ∧ Encodable text) ↔
      Encodable m.1 ∧ inDomain m.2 = true := by
  have hcolon : Encodable (str ":") := by decide
  rw [h.domain, memberText]
  cases serialize m.2 with
  | error e => simp [Except.map]
  | ok text => simp [Except.map, encodable_serializeString, hcolon]

theorem serialize_dict_spec {members : List (PyStr × PyVal)}
    (hmembers : ∀ m ∈ members, SerializeSpec m.2) : SerializeSpec (.dict members) := by
  constructor
  · rw [inDomain, membersInDomain_iff, serialize_dict]
    split
    case isFalse hkeys =>
      refine iff_of_false (fun h => hkeys fun m hm => (h m hm).1) ?_
      intro hspec
      obtain ⟨text, h, -⟩ := hspec
      cases h
    case isTrue =>
      rw [joined_domain (by decide) (by decide)]
      constructor
      · intro h m hm
        have hm := mem_sortedMembers.mp hm
        exact (memberText_domain (hmembers m hm)).mpr (h m hm)
      · intro h m hm
        exact (memberText_domain (hmembers m hm)).mp (h m (mem_sortedMembers.mpr hm))
  · intro e h
    rw [serialize_dict] at h
    split at h
    case isFalse =>
      cases h
      exact .inl rfl
    case isTrue =>
      obtain ⟨m, hm, h⟩ := joined_error h
      refine (hmembers m (mem_sortedMembers.mp hm)).raises e ?_
      rw [memberText] at h
      cases hv : serialize m.2 with
      | error e' =>
          rw [hv] at h
          exact h
      | ok text =>
          rw [hv] at h
          cases h

theorem serialize_list_spec {xs : List PyVal} (hxs : ∀ x ∈ xs, SerializeSpec x) :
    SerializeSpec (.list xs) := by
  constructor
  · rw [inDomain, itemsInDomain_iff, serialize_list, joined_domain (by decide) (by decide)]
    exact forall₂_congr fun x hx => (hxs x hx).domain
  · intro e h
    rw [serialize_list] at h
    obtain ⟨x, hx, h⟩ := joined_error h
    exact (hxs x hx).raises e h

theorem serializeNumber_error {i : Int} {e : Exc} (h : serializeNumber i = .error e) :
    IsEncodingError e := by
  unfold serializeNumber at h
  split at h
  · split at h
    · cases h
      exact .inr (.inl rfl)
    · cases h
      exact .inr (.inr ⟨_, rfl⟩)
  · cases h

theorem serialize_int_spec (i : Int) : SerializeSpec (.int i) := by
  constructor
  · constructor
    · intro hi
      exact ⟨_, serializeNumber_eq_ok.mpr ⟨by simpa [inDomain] using hi, rfl⟩, encodable_decimal i⟩
    · intro h
      obtain ⟨text, h, -⟩ := h
      simpa [inDomain] using (serializeNumber_eq_ok.mp h).1
  · exact fun e h => serializeNumber_error h

theorem serialize_str_spec (s : PyStr) : SerializeSpec (.str s) := by
  have hs : inDomain (.str s) = true ↔ Encodable s := by simp [inDomain, Encodable]
  constructor
  · rw [hs, ← encodable_serializeString]
    constructor
    · exact fun henc => ⟨_, rfl, henc⟩
    · intro hspec
      obtain ⟨text, htext, henc⟩ := hspec
      cases htext
      exact henc
  · intro e h
    cases h

theorem serialize_spec (v : PyVal) : SerializeSpec v := by
  induction v with
  | none => exact ⟨iff_of_true rfl ⟨_, rfl, by decide⟩, fun _ h => by cases h⟩
  | bool b =>
      cases b with
      | true => exact ⟨iff_of_true rfl ⟨_, rfl, by decide⟩, fun _ h => by cases h⟩
      | false => exact ⟨iff_of_true rfl ⟨_, rfl, by decide⟩, fun _ h => by cases h⟩
  | float f =>
      refine ⟨iff_of_false (by simp [inDomain]) ?_, fun e h => ?_⟩
      · intro h
        obtain ⟨text, h, -⟩ := h
        cases h
      · cases h
        exact .inr (.inr ⟨_, rfl⟩)
  | int i => exact serialize_int_spec i
  | str s => exact serialize_str_spec s
  | list xs ih => exact serialize_list_spec ih
  | dict members ih => exact serialize_dict_spec ih

/-- **The domain of `canonicalize`.** -/
theorem canonicalize_isOk {v : PyVal} :
    inDomain v = true ↔ ∃ bytes, canonicalize v = .ok bytes := by
  rw [(serialize_spec v).domain, canonicalize]
  cases serialize v with
  | error e => simp [bind, Except.bind]
  | ok text =>
      by_cases henc : Encodable text
      · have hbytes : encodeUtf8 text = some (text.flatMap CodePoint.utf8) := by
          rw [encodeUtf8, henc]
          rfl
        simp [bind, Except.bind, henc, hbytes]
      · have hnone : encodeUtf8 text = none := by
          rw [Encodable, Bool.not_eq_false] at henc
          rw [encodeUtf8, henc]
          rfl
        simp [bind, Except.bind, henc, hnone]

/-- Outside the domain it raises an encoding error. -/
theorem canonicalize_error {v : PyVal} {e : Exc} (h : canonicalize v = .error e) :
    inDomain v = false ∧ IsEncodingError e := by
  refine ⟨?_, ?_⟩
  · rw [← Bool.not_eq_true, canonicalize_isOk]
    intro hspec
    obtain ⟨bytes, hok⟩ := hspec
    rw [hok] at h
    cases h
  · rcases bind_eq_error.mp h with h | ⟨text, -, h⟩
    · exact (serialize_spec v).raises e h
    · split at h
      · cases h
      · cases h
        exact .inl rfl

end Jcs

end GmailGateway
