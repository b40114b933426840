import GmailGateway.Canonicalizer.RoundTrip

/-!
# GmailGateway.Python.Dumps

**`json.dumps` and `json.loads`.** `dumps` writes pure ASCII: every other code point is escaped, one
beyond the basic plane as its two surrogates. `loads` joins adjacent escapes of a high and a low
surrogate, and an object that has a member twice keeps the last one.

So reading what was written gives `reread v`: the value itself, unless one of its strings holds a
high surrogate next to a low one (`loads_dumps_iff`). What Python makes of floats is a parameter.
-/

namespace GmailGateway.Python

/-! ### Values, node by node -/

namespace PyVal

mutual

/-- `p` holds of the value and of every value inside it. -/
def every (p : PyVal → Bool) : PyVal → Bool
  | .list xs => p (.list xs) && everyItem p xs
  | .dict members => p (.dict members) && everyMember p members
  | v => p v

/-- So for every item. -/
def everyItem (p : PyVal → Bool) : List PyVal → Bool
  | [] => true
  | v :: vs => every p v && everyItem p vs

/-- So for every value. -/
def everyMember (p : PyVal → Bool) : List (PyStr × PyVal) → Bool
  | [] => true
  | (_, v) :: members => every p v && everyMember p members

end

mutual

/-- The value with `f` applied to its strings and keys, and then `g` to its objects. -/
def rebuild (f : PyStr → PyStr) (g : Dict → Dict) : PyVal → PyVal
  | .str s => .str (f s)
  | .list xs => .list (rebuildItems f g xs)
  | .dict members => .dict (g (rebuildMembers f g members))
  | v => v

/-- So in every item. -/
def rebuildItems (f : PyStr → PyStr) (g : Dict → Dict) : List PyVal → List PyVal
  | [] => []
  | v :: vs => rebuild f g v :: rebuildItems f g vs

/-- So in every value, and in the keys. -/
def rebuildMembers (f : PyStr → PyStr) (g : Dict → Dict) :
    List (PyStr × PyVal) → List (PyStr × PyVal)
  | [] => []
  | (key, v) :: members => (f key, rebuild f g v) :: rebuildMembers f g members

end

variable {p : PyVal → Bool} {f : PyStr → PyStr} {g : Dict → Dict}

theorem everyItem_iff {xs : List PyVal} :
    everyItem p xs = true ↔ ∀ x ∈ xs, x.every p = true := by
  induction xs with
  | nil => simp [everyItem]
  | cons x xs ih => simp [everyItem, ih]

theorem everyMember_iff {members : List (PyStr × PyVal)} :
    everyMember p members = true ↔ ∀ m ∈ members, m.2.every p = true := by
  induction members with
  | nil => simp [everyMember]
  | cons m members ih => simp [everyMember, ih]

@[simp] theorem every_list {xs : List PyVal} :
    (PyVal.list xs).every p = true ↔ p (.list xs) = true ∧ ∀ x ∈ xs, x.every p = true := by
  rw [every, Bool.and_eq_true, everyItem_iff]

@[simp] theorem every_dict {members : List (PyStr × PyVal)} :
    (PyVal.dict members).every p = true ↔
      p (.dict members) = true ∧ ∀ m ∈ members, m.2.every p = true := by
  rw [every, Bool.and_eq_true, everyMember_iff]

theorem rebuildItems_eq (xs : List PyVal) : rebuildItems f g xs = xs.map (rebuild f g) := by
  induction xs with
  | nil => rfl
  | cons x xs ih => rw [rebuildItems, ih, List.map_cons]

theorem rebuildMembers_eq (members : List (PyStr × PyVal)) :
    rebuildMembers f g members = members.map fun m => (f m.1, rebuild f g m.2) := by
  induction members with
  | nil => rfl
  | cons m members ih => rw [rebuildMembers, ih, List.map_cons]

@[simp] theorem rebuild_list (xs : List PyVal) :
    rebuild f g (.list xs) = .list (xs.map (rebuild f g)) := by
  rw [rebuild, rebuildItems_eq]

@[simp] theorem rebuild_dict (members : List (PyStr × PyVal)) :
    rebuild f g (.dict members) = .dict (g (members.map fun m => (f m.1, rebuild f g m.2))) := by
  rw [rebuild, rebuildMembers_eq]

/-- Rebuilding twice, the objects the second time. -/
theorem rebuild_rebuild (v : PyVal) : (v.rebuild f id).rebuild id g = v.rebuild f g := by
  induction v with
  | list xs ih =>
      simp only [rebuild_list, List.map_map, list.injEq]
      exact List.map_congr_left ih
  | dict members ih =>
      simp only [rebuild_dict, List.map_map, id]
      refine congrArg (fun ms => dict (g ms)) (List.map_congr_left fun m hm => ?_)
      simp [ih m hm]
  | _ => simp [rebuild]

end PyVal

/-! ### Objects with a member twice -/

/-- `d[key] = v`. -/
def Dict.set (key : PyStr) (v : PyVal) : Dict → Dict
  | [] => [(key, v)]
  | m :: d => if m.1 = key then (key, v) :: d else m :: Dict.set key v d

/-- `dict(pairs)`. -/
def Dict.ofPairs (pairs : List (PyStr × PyVal)) : Dict :=
  pairs.foldl (fun d m => Dict.set m.1 m.2 d) []

namespace Dict

theorem set_of_not_mem {key : PyStr} {d : Dict} (h : key ∉ d.map (·.1)) (v : PyVal) :
    set key v d = d ++ [(key, v)] := by
  induction d with
  | nil => rfl
  | cons m d ih =>
      rw [List.map_cons, List.mem_cons, not_or] at h
      rw [set, if_neg (Ne.symm h.1), ih h.2]
      rfl

theorem set_keys_of_mem {key : PyStr} {d : Dict} (h : key ∈ d.map (·.1)) (v : PyVal) :
    (set key v d).map (·.1) = d.map (·.1) := by
  induction d with
  | nil => exact absurd h List.not_mem_nil
  | cons m d ih =>
      by_cases hm : m.1 = key
      · simp [set, hm]
      · rw [List.map_cons, List.mem_cons] at h
        simp [set, hm, ih (h.resolve_left (Ne.symm hm))]

@[simp] theorem ofPairs_concat (pairs : List (PyStr × PyVal)) (m : PyStr × PyVal) :
    ofPairs (pairs ++ [m]) = set m.1 m.2 (ofPairs pairs) := by
  simp [ofPairs]

theorem mem_of_mem_set {key : PyStr} {v : PyVal} {d : Dict} {m : PyStr × PyVal}
    (h : m ∈ set key v d) : m = (key, v) ∨ m ∈ d := by
  induction d with
  | nil => exact .inl (List.mem_singleton.mp h)
  | cons m' d ih =>
      by_cases hm : m'.1 = key
      · rw [set, if_pos hm, List.mem_cons] at h
        exact h.imp_right (List.mem_cons_of_mem _)
      · rw [set, if_neg hm, List.mem_cons] at h
        rcases h with rfl | h
        · exact .inr List.mem_cons_self
        · exact (ih h).imp_right (List.mem_cons_of_mem _)

theorem mem_of_mem_ofPairs {pairs : List (PyStr × PyVal)} {m : PyStr × PyVal}
    (h : m ∈ ofPairs pairs) : m ∈ pairs := by
  induction pairs using List.reverseRecOn with
  | nil => exact h
  | append_singleton pairs m' ih =>
      rw [ofPairs_concat] at h
      rw [List.mem_append, List.mem_singleton]
      exact (mem_of_mem_set h).symm.imp_left ih

theorem ofPairs_of_nodup {pairs : List (PyStr × PyVal)} (h : (pairs.map (·.1)).Nodup) :
    ofPairs pairs = pairs := by
  induction pairs using List.reverseRecOn with
  | nil => rfl
  | append_singleton pairs m ih =>
      rw [List.map_append, List.map_singleton, ← List.concat_eq_append,
        List.nodup_concat] at h
      rw [ofPairs_concat, ih h.2, set_of_not_mem h.1]

/-- Only a repeated key is lost. -/
theorem ofPairs_of_length {pairs : List (PyStr × PyVal)}
    (h : pairs.length ≤ (ofPairs pairs).length) : ofPairs pairs = pairs := by
  have hle : ∀ pairs : List (PyStr × PyVal), (ofPairs pairs).length ≤ pairs.length ∧
      (pairs.length ≤ (ofPairs pairs).length → ofPairs pairs = pairs) := by
    intro pairs
    induction pairs using List.reverseRecOn with
    | nil => simp [ofPairs]
    | append_singleton pairs m ih =>
        rw [ofPairs_concat]
        by_cases hm : m.1 ∈ (ofPairs pairs).map (·.1)
        · have hkeys := congrArg List.length (set_keys_of_mem hm m.2)
          rw [List.length_map, List.length_map] at hkeys
          have := ih.1
          exact ⟨by simp; omega, fun h => by simp at h; omega⟩
        · rw [set_of_not_mem hm]
          exact ⟨by simpa using ih.1, fun h => by rw [ih.2 (by simpa using h)]⟩
  exact (hle pairs).2 h

end Dict

namespace Json

open Jcs

/-! ### Writing -/

/-- `\uXXXX`. -/
def unicodeEscape (n : Nat) : PyStr :=
  str "\\u" ++ [hexDigit (n / 0x1000), hexDigit (n / 0x100 % 0x10), hexDigit (n / 0x10 % 0x10),
    hexDigit (n % 0x10)]

/-- `py_encode_basestring_ascii` of one code point. -/
def asciiEscape (c : CodePoint) : PyStr :=
  match c.val with
  | 0x08 => str "\\b"
  | 0x09 => str "\\t"
  | 0x0A => str "\\n"
  | 0x0C => str "\\f"
  | 0x0D => str "\\r"
  | 0x22 => str "\\\""
  | 0x5C => str "\\\\"
  | n => if 0x20 ≤ n ∧ n ≤ 0x7E then [c] else c.utf16.flatMap unicodeEscape

/-- `py_encode_basestring_ascii`. -/
def dumpsStr (s : PyStr) : PyStr := str "\"" ++ s.flatMap asciiEscape ++ str "\""

/-- `int.__repr__`. -/
def dumpsInt (i : Int) : Except Exc PyStr :=
  if intMaxStrDigits < (natDecimal i.natAbs).length then .error .valueError else .ok (decimal i)

section
variable (floatRepr : PyFloat → PyStr)

mutual

/-- `json.dumps(v)`. -/
def dumps : PyVal → Except Exc PyStr
  | .none => .ok (str "null")
  | .bool true => .ok (str "true")
  | .bool false => .ok (str "false")
  | .str s => .ok (dumpsStr s)
  | .float f => .ok (floatRepr f)
  | .int i => dumpsInt i
  | .list xs => do
      let parts ← dumpsItems xs
      pure (str "[" ++ (str ", ").intercalate parts ++ str "]")
  | .dict members => do
      let parts ← dumpsMembers members
      pure (str "\x7b" ++ (str ", ").intercalate parts ++ str "\x7d")

/-- The items of a list, from the left. -/
def dumpsItems : List PyVal → Except Exc (List PyStr)
  | [] => .ok []
  | v :: vs => do
      let text ← dumps v
      let texts ← dumpsItems vs
      pure (text :: texts)

/-- The members of an object, from the left. -/
def dumpsMembers : List (PyStr × PyVal) → Except Exc (List PyStr)
  | [] => .ok []
  | (key, v) :: members => do
      let text ← dumps v
      let texts ← dumpsMembers members
      pure ((dumpsStr key ++ str ": " ++ text) :: texts)

end

end

/-! ### Reading -/

/-- `int(text)` refuses a literal of too many digits. -/
def withinDigits (v : PyVal) : Bool :=
  v.every fun
    | .int i => (natDecimal i.natAbs).length ≤ intMaxStrDigits
    | _ => true

/-- `json.loads(text)`. -/
def loads (toFloat : PyStr → PyFloat) (text : PyStr) : Except Exc PyVal :=
  match parse toFloat text with
  | some v => if withinDigits v then .ok (v.rebuild id Dict.ofPairs) else .error .valueError
  | none => .error .valueError

example : (dumps (fun _ => [])
    (.dict [(str "é", .list [.int (-1), .str [Fin.ofNat _ 0x1F600]])])).toOption =
      some (str "\x7b\"\\u00e9\": [-1, \"\\ud83d\\ude00\"]\x7d") := by
  decide +kernel

/-! ### Surrogates -/

/-- A high surrogate. -/
def isHigh (c : CodePoint) : Bool := 0xD800 ≤ c.val && c.val ≤ 0xDBFF

/-- A low surrogate. -/
def isLow (c : CodePoint) : Bool := 0xDC00 ≤ c.val && c.val ≤ 0xDFFF

/-- The code point that two surrogates stand for. -/
def ofPair (hi lo : Nat) : CodePoint :=
  Fin.ofNat 0x110000 (0x10000 + (hi - 0xD800) * 0x400 + (lo - 0xDC00))

/-- Every high surrogate joined with a low one behind it. -/
def joinSurrogates : PyStr → PyStr
  | [] => []
  | [c] => [c]
  | c :: d :: s =>
      if isHigh c && isLow d then ofPair c.val d.val :: joinSurrogates s
      else c :: joinSurrogates (d :: s)

/-- No high surrogate stands before a low one. -/
def unpaired : PyStr → Bool
  | [] => true
  | [_] => true
  | c :: d :: s => !(isHigh c && isLow d) && unpaired (d :: s)

theorem joinSurrogates_length (s : PyStr) : (joinSurrogates s).length ≤ s.length := by
  fun_induction joinSurrogates s with
  | case1 => simp
  | case2 => simp
  | case3 c d s _ ih => simp; omega
  | case4 c d s _ ih => simpa using ih

theorem joinSurrogates_eq_self {s : PyStr} : joinSurrogates s = s ↔ unpaired s = true := by
  fun_induction joinSurrogates s with
  | case1 => simp [unpaired]
  | case2 => simp [unpaired]
  | case3 c d s hpair ih =>
      have hlength := joinSurrogates_length s
      refine iff_of_false (fun h => ?_) (by simp [unpaired, hpair])
      have := congrArg List.length h
      simp at this
      omega
  | case4 c d s hpair ih => simp [unpaired, hpair, ih]

/-- A joined pair is no surrogate. -/
theorem ofPair_bounds {c d : CodePoint} (h : (isHigh c && isLow d) = true) :
    isHigh (ofPair c.val d.val) = false ∧ isLow (ofPair c.val d.val) = false := by
  simp only [isHigh, isLow, Bool.and_eq_true, decide_eq_true_eq] at h
  have hval : (ofPair c.val d.val).val = 0x10000 + (c.val - 0xD800) * 0x400 + (d.val - 0xDC00) :=
    Nat.mod_eq_of_lt (by omega)
  simp only [isHigh, isLow, hval, Bool.and_eq_false_iff, decide_eq_false_iff_not]
  omega

/-- Joining puts no low surrogate in front. -/
theorem head_joinSurrogates (d : CodePoint) (s : PyStr) :
    ∃ e t, joinSurrogates (d :: s) = e :: t ∧ (isLow e = true → isLow d = true) := by
  cases s with
  | nil => exact ⟨d, [], rfl, id⟩
  | cons c s =>
      by_cases hpair : (isHigh d && isLow c) = true
      · refine ⟨ofPair d.val c.val, joinSurrogates s, by simp [joinSurrogates, hpair], fun h => ?_⟩
        rw [(ofPair_bounds hpair).2] at h
        cases h
      · exact ⟨d, joinSurrogates (c :: s), by simp [joinSurrogates, hpair], id⟩

/-- What was joined is not joined any further. -/
theorem unpaired_joinSurrogates (s : PyStr) : unpaired (joinSurrogates s) = true := by
  fun_induction joinSurrogates s with
  | case1 => rfl
  | case2 => rfl
  | case3 c d s hpair ih =>
      cases hs : joinSurrogates s with
      | nil => rfl
      | cons e t =>
          rw [hs] at ih
          simp [unpaired, (ofPair_bounds hpair).1, ih]
  | case4 c d s hpair ih =>
      obtain ⟨e, t, hs, hlow⟩ := head_joinSurrogates d s
      rw [hs] at ih ⊢
      have hsplit : (isHigh c && isLow e) = false := by
        rw [Bool.and_eq_false_iff]
        by_contra hboth
        simp only [not_or, Bool.not_eq_false] at hboth
        exact hpair (by rw [hboth.1, hlow hboth.2]; rfl)
      simp [unpaired, hsplit, ih]

/-! ### Reading a string back -/

theorem hex4?_digits {n : Nat} (hn : n < 0x10000) :
    hex4? (hexDigit (n / 0x1000)) (hexDigit (n / 0x100 % 0x10)) (hexDigit (n / 0x10 % 0x10))
      (hexDigit (n % 0x10)) = some n := by
  have hback : ((n / 0x1000 * 16 + n / 0x100 % 0x10) * 16 + n / 0x10 % 0x10) * 16 + n % 0x10 =
      n := by omega
  simp only [hex4?, hexValue?_hexDigit _ (show n / 0x1000 < 16 by omega),
    hexValue?_hexDigit _ (show n / 0x100 % 0x10 < 16 by omega),
    hexValue?_hexDigit _ (show n / 0x10 % 0x10 < 16 by omega),
    hexValue?_hexDigit _ (show n % 0x10 < 16 by omega), Option.bind_eq_bind, Option.bind_some,
    hback]
  rfl

theorem unicodeEscape_append (n : Nat) (s : PyStr) :
    unicodeEscape n ++ s = CodePoint.ofChar '\\' :: CodePoint.ofChar 'u' ::
      hexDigit (n / 0x1000) :: hexDigit (n / 0x100 % 0x10) :: hexDigit (n / 0x10 % 0x10) ::
        hexDigit (n % 0x10) :: s := rfl

theorem backslash_val : (CodePoint.ofChar '\\').val = 0x5C := by decide

theorem u_val : (CodePoint.ofChar 'u').val = 0x75 := by decide

/-- An escape is read as its code unit, unless a low surrogate has to be joined. -/
theorem parseChar_unicodeEscape {n : Nat} (hn : n < 0x10000) (s : PyStr) :
    parseChar (unicodeEscape n ++ s) =
      match parseChar.lowSurrogate? n s with
      | some (lo, s) => some (ofPair n lo, s)
      | none => some (Fin.ofNat 0x110000 n, s) := by
  rw [unicodeEscape_append]
  simp only [parseChar, backslash_val, u_val, if_true, hex4?_digits hn, Option.bind_eq_bind,
    Option.bind_some]
  cases parseChar.lowSurrogate? n s <;> rfl

theorem lowSurrogate?_unicodeEscape {hi lo : Nat} (hlo : lo < 0x10000) (s : PyStr) :
    parseChar.lowSurrogate? hi (unicodeEscape lo ++ s) =
      if 0xD800 ≤ hi ∧ hi ≤ 0xDBFF ∧ 0xDC00 ≤ lo ∧ lo ≤ 0xDFFF then some (lo, s) else none := by
  rw [unicodeEscape_append]
  simp only [parseChar.lowSurrogate?, hex4?_digits hlo, Option.bind_eq_bind, Option.bind_some,
    backslash_val, u_val, true_and]

/-- Nothing but an escape can be joined. -/
theorem lowSurrogate?_of_head {hi : Nat} {c d : CodePoint} {s : PyStr}
    (h : c.val ≠ 0x5C ∨ d.val ≠ 0x75) : parseChar.lowSurrogate? hi (c :: d :: s) = none := by
  unfold parseChar.lowSurrogate?
  split
  · rename_i b u h₁ h₂ h₃ h₄ s' heq
    obtain ⟨rfl, rfl, -⟩ : c = b ∧ d = u ∧ _ := by simpa using heq
    cases hex4? h₁ h₂ h₃ h₄ with
    | none => rfl
    | some lo =>
        simp only [Option.bind_eq_bind, Option.bind_some, ite_eq_right_iff, reduceCtorEq, imp_false]
        rintro ⟨-, -, hc, hd, -⟩
        exact h.elim (· hc) (· hd)
  · rfl

/-- What an escaped code point looks like. -/
inductive Escaped (c : CodePoint) : PyStr → Prop
  | short (e : CodePoint) : e.val ≠ 0x75 → shortEscape? e = some c →
      Escaped c [CodePoint.ofChar '\\', e]
  | literal : c.val ≠ 0x22 → c.val ≠ 0x5C → 0x20 ≤ c.val → c.val ≤ 0x7E → Escaped c [c]
  | unit : c.val < 0x10000 → Escaped c (unicodeEscape c.val)
  | pair (hi lo : Nat) : 0xD800 ≤ hi → hi ≤ 0xDBFF → 0xDC00 ≤ lo → lo ≤ 0xDFFF → ofPair hi lo = c →
      Escaped c (unicodeEscape hi ++ unicodeEscape lo)

theorem asciiEscape_escaped (c : CodePoint) : Escaped c (asciiEscape c) := by
  unfold asciiEscape
  split
  case h_8 hquote hslash =>
    split
    case isTrue h => exact .literal hquote hslash h.1 h.2
    case isFalse h =>
      unfold CodePoint.utf16
      split
      case isTrue hc => simpa using Escaped.unit hc
      case isFalse hc =>
        have hlt := c.isLt
        have hpair : ofPair (0xD800 + (c.val - 0x10000) / 0x400)
            (0xDC00 + (c.val - 0x10000) % 0x400) = c := ofChar_eq (by omega)
        simpa using Escaped.pair _ _ (by omega) (by omega) (by omega) (by omega) hpair
  all_goals
    rename_i h
    rw [← ofChar_eq h]
    exact .short _ (by decide) (by decide)

theorem Escaped.eq_cons {c : CodePoint} {text : PyStr} (h : Escaped c text) :
    ∃ d t, text = d :: t ∧ d.val ≠ 0x22 := by
  cases h with
  | literal hquote => exact ⟨c, [], rfl, hquote⟩
  | _ => exact ⟨CodePoint.ofChar '\\', _, rfl, by decide⟩

/-- The parser reads an escaped code point, and a low surrogate with it that follows a high one. -/
theorem Escaped.parseChar {c : CodePoint} {text : PyStr} (h : Escaped c text) {s : PyStr}
    (hs : isHigh c = true → parseChar.lowSurrogate? c.val s = none) :
    Json.parseChar (text ++ s) = some (c, s) := by
  cases h with
  | short e hu hr => exact parseChar_short hu hr s
  | literal _ hslash hc => exact parseChar_literal hslash (by omega) s
  | unit hc =>
      have hnone : Json.parseChar.lowSurrogate? c.val s = none := by
        by_cases hhigh : isHigh c = true
        · exact hs hhigh
        · unfold Json.parseChar.lowSurrogate?
          simp only [isHigh, Bool.and_eq_true, decide_eq_true_eq] at hhigh
          split
          · rename_i b u h₁ h₂ h₃ h₄ s'
            cases hex4? h₁ h₂ h₃ h₄ with
            | none => rfl
            | some lo =>
                simp only [Option.bind_eq_bind, Option.bind_some, ite_eq_right_iff, reduceCtorEq,
                  imp_false]
                omega
          · rfl
      rw [parseChar_unicodeEscape hc, hnone, ofChar_eq rfl]
  | pair hi lo h₁ h₂ h₃ h₄ hpair =>
      rw [List.append_assoc, parseChar_unicodeEscape (show hi < 0x10000 by omega),
        lowSurrogate?_unicodeEscape (show lo < 0x10000 by omega), if_pos ⟨h₁, h₂, h₃, h₄⟩]
      exact congrArg (fun c => some (c, s)) hpair

/-- Only a low surrogate is joined with what stands before it. -/
theorem Escaped.lowSurrogate? {c : CodePoint} {text : PyStr} (h : Escaped c text)
    (hlow : isLow c = false) (hi : Nat) {s : PyStr} (hs : s ≠ []) :
    Json.parseChar.lowSurrogate? hi (text ++ s) = none := by
  obtain ⟨d, s, rfl⟩ := List.exists_cons_of_ne_nil hs
  cases h with
  | short e hu _ => exact lowSurrogate?_of_head (.inr hu)
  | literal _ hslash => exact lowSurrogate?_of_head (.inl hslash)
  | unit hc =>
      simp only [isLow, Bool.and_eq_false_iff, decide_eq_false_iff_not] at hlow
      rw [lowSurrogate?_unicodeEscape hc, if_neg (by omega)]
  | pair hi' lo h₁ h₂ h₃ h₄ _ =>
      rw [List.append_assoc, lowSurrogate?_unicodeEscape (by omega), if_neg (by omega)]

theorem asciiEscape_surrogate {c : CodePoint} (h₁ : 0xD800 ≤ c.val) (h₂ : c.val ≤ 0xDFFF) :
    asciiEscape c = unicodeEscape c.val := by
  unfold asciiEscape
  split
  case h_8 =>
    have hutf16 : c.utf16 = [c.val] := if_pos (by omega)
    rw [if_neg (by omega), hutf16, List.flatMap_singleton]
  all_goals omega

/-- One step of the loop over the characters of a string. -/
theorem parseChars_escaped {c : CodePoint} {text s : PyStr} {n : Nat} (h : Escaped c text)
    (hchar : parseChar (text ++ s) = some (c, s)) :
    parseChars (n + 1) (text ++ s) = (parseChars n s).map fun read => (c :: read.1, read.2) := by
  obtain ⟨d, t, rfl, hquote⟩ := h.eq_cons
  rw [List.cons_append, parseChars, if_neg hquote, ← List.cons_append, hchar]
  simp only [Option.bind_eq_bind, Option.bind_some]
  cases parseChars n s <;> rfl

/-- The parser reads an escaped string back joined, up to its closing quote. -/
theorem parseChars_asciiEscape (s rest : PyStr) {n : Nat}
    (hn : (s.flatMap asciiEscape).length < n) :
    parseChars n (s.flatMap asciiEscape ++ CodePoint.ofChar '"' :: rest) =
      some (joinSurrogates s, rest) := by
  have hquote : (CodePoint.ofChar '"').val = 0x22 := by decide
  have hlength : ∀ c, 0 < (asciiEscape c).length := by
    intro c
    obtain ⟨d, t, htext, -⟩ := (asciiEscape_escaped c).eq_cons
    simp [htext]
  induction s using joinSurrogates.induct generalizing n with
  | case1 =>
      obtain ⟨n, rfl⟩ : ∃ m, n = m + 1 := ⟨n - 1, by simp at hn; omega⟩
      simp [parseChars, hquote, joinSurrogates]
  | case2 c =>
      have hc := hlength c
      simp only [List.flatMap_cons, List.flatMap_nil, List.append_nil] at hn ⊢
      obtain ⟨n, rfl⟩ : ∃ m, n = m + 2 := ⟨n - 2, by omega⟩
      have hnone : parseChar.lowSurrogate? c.val (CodePoint.ofChar '"' :: rest) = none := by
        cases rest with
        | nil => rfl
        | cons d rest => exact lowSurrogate?_of_head (.inl (by decide))
      rw [parseChars_escaped (asciiEscape_escaped c) ((asciiEscape_escaped c).parseChar
        fun _ => hnone), parseChars, if_pos hquote]
      rfl
  | case3 c d s hpair ih =>
      -- The two escapes are read as one code point.
      have hbounds := hpair
      simp only [isHigh, isLow, Bool.and_eq_true, decide_eq_true_eq] at hbounds
      have hc := hlength c
      rw [List.flatMap_cons, List.flatMap_cons, List.length_append, List.length_append] at hn
      obtain ⟨n, rfl⟩ : ∃ m, n = m + 1 := ⟨n - 1, by omega⟩
      have hescaped : Escaped (ofPair c.val d.val) (asciiEscape c ++ asciiEscape d) := by
        rw [asciiEscape_surrogate hbounds.1.1 (by omega),
          asciiEscape_surrogate (by omega) hbounds.2.2]
        exact .pair _ _ hbounds.1.1 hbounds.1.2 hbounds.2.1 hbounds.2.2 rfl
      have hhigh : isHigh (ofPair c.val d.val) = false := by
        have hval : (ofPair c.val d.val).val =
            0x10000 + (c.val - 0xD800) * 0x400 + (d.val - 0xDC00) := Nat.mod_eq_of_lt (by omega)
        simp only [isHigh, hval, Bool.and_eq_false_iff, decide_eq_false_iff_not]
        omega
      have hchar := hescaped.parseChar (s := s.flatMap asciiEscape ++ CodePoint.ofChar '"' :: rest)
        (fun h => absurd h (by simp [hhigh]))
      rw [List.flatMap_cons, List.flatMap_cons, ← List.append_assoc, List.append_assoc,
        parseChars_escaped hescaped hchar, ih (by omega), joinSurrogates, if_pos hpair]
      rfl
  | case4 c d s hpair ih =>
      have hc := hlength c
      rw [List.flatMap_cons, List.length_append] at hn
      obtain ⟨n, rfl⟩ : ∃ m, n = m + 1 := ⟨n - 1, by omega⟩
      have hnone : isHigh c = true → parseChar.lowSurrogate? c.val
          ((d :: s).flatMap asciiEscape ++ CodePoint.ofChar '"' :: rest) = none := by
        intro hhigh
        rw [List.flatMap_cons, List.append_assoc]
        exact (asciiEscape_escaped d).lowSurrogate? (by simpa [hhigh] using hpair) _ (by simp)
      rw [List.flatMap_cons, List.append_assoc, parseChars_escaped (asciiEscape_escaped c)
        ((asciiEscape_escaped c).parseChar hnone), ih (by omega), joinSurrogates, if_neg hpair]
      rfl

theorem dumpsStr_readsAs (s : PyStr) : StringReadsAs (dumpsStr s) (joinSurrogates s) := by
  refine ⟨s.flatMap asciiEscape ++ str "\"", by simp [dumpsStr, str], fun n rest hn => ?_⟩
  rw [List.length_append] at hn
  rw [List.append_assoc]
  exact parseChars_asciiEscape s rest hn

/-! ### The round trip -/

/-- Floats are outside: what `repr` writes of one is a parameter. -/
def floatFree (v : PyVal) : Bool :=
  v.every fun
    | .float _ => false
    | _ => true

/-- A `dict` has every key once. -/
def distinctKeys (v : PyVal) : Bool :=
  v.every fun
    | .dict members => decide (members.map (·.1)).Nodup
    | _ => true

/-- No string and no key holds a high surrogate before a low one. -/
def surrogatesUnpaired (v : PyVal) : Bool :=
  v.every fun
    | .str s => unpaired s
    | .dict members => members.all (unpaired ·.1)
    | _ => true

/-- The value that reading what was written gives. -/
def reread (v : PyVal) : PyVal := v.rebuild joinSurrogates Dict.ofPairs

section
variable {toFloat : PyStr → PyFloat} {floatRepr : PyFloat → PyStr}

theorem dumpsItems_eq_ok {xs : List PyVal} {parts : List PyStr} :
    dumpsItems floatRepr xs = .ok parts ↔
      List.Forall₂ (fun x text => dumps floatRepr x = .ok text) xs parts := by
  induction xs generalizing parts with
  | nil => cases parts <;> simp [dumpsItems]
  | cons x xs ih =>
      simp only [dumpsItems, bind_eq_ok, ih, List.forall₂_cons_left_iff, pure, Except.pure,
        Except.ok.injEq, exists_and_left, @eq_comm _ parts]

theorem dumpsMembers_eq_ok {members : List (PyStr × PyVal)} {parts : List PyStr} :
    dumpsMembers floatRepr members = .ok parts ↔
      List.Forall₂ (fun m part => ∃ text, dumps floatRepr m.2 = .ok text ∧
        part = dumpsStr m.1 ++ str ": " ++ text) members parts := by
  induction members generalizing parts with
  | nil => cases parts <;> simp [dumpsMembers]
  | cons m members ih =>
      simp only [dumpsMembers, bind_eq_ok, ih, List.forall₂_cons_left_iff, pure, Except.pure,
        Except.ok.injEq]
      constructor
      · intro h
        obtain ⟨text, htext, texts, htexts, rfl⟩ := h
        exact ⟨_, texts, ⟨text, htext, rfl⟩, htexts, rfl⟩
      · intro h
        obtain ⟨_, texts, ⟨text, htext, rfl⟩, htexts, rfl⟩ := h
        exact ⟨text, htext, texts, htexts, rfl⟩

theorem dumpsInt_eq_ok {i : Int} {text : PyStr} :
    dumpsInt i = .ok text ↔ (natDecimal i.natAbs).length ≤ intMaxStrDigits ∧ text = decimal i := by
  unfold dumpsInt
  split
  case isTrue h => simp [h]
  case isFalse h => simp [not_lt.mp h, eq_comm]

theorem dumpsItems_error {xs : List PyVal} {e : Exc} (h : dumpsItems floatRepr xs = .error e) :
    ∃ x ∈ xs, dumps floatRepr x = .error e := by
  induction xs with
  | nil => cases h
  | cons x xs ih =>
      rcases bind_eq_error.mp h with hx | ⟨text, -, hrest⟩
      · exact ⟨x, List.mem_cons_self, hx⟩
      · rcases bind_eq_error.mp hrest with hxs | ⟨texts, -, hpure⟩
        · obtain ⟨y, hy, hdumps⟩ := ih hxs
          exact ⟨y, List.mem_cons_of_mem _ hy, hdumps⟩
        · cases hpure

theorem dumpsMembers_error {members : List (PyStr × PyVal)} {e : Exc}
    (h : dumpsMembers floatRepr members = .error e) :
    ∃ m ∈ members, dumps floatRepr m.2 = .error e := by
  induction members with
  | nil => cases h
  | cons m members ih =>
      rcases bind_eq_error.mp h with hm | ⟨text, -, hrest⟩
      · exact ⟨m, List.mem_cons_self, hm⟩
      · rcases bind_eq_error.mp hrest with hms | ⟨texts, -, hpure⟩
        · obtain ⟨n, hn, hdumps⟩ := ih hms
          exact ⟨n, List.mem_cons_of_mem _ hn, hdumps⟩
        · cases hpure

/-- Writing raises nothing but `ValueError`. -/
theorem dumps_error {v : PyVal} {e : Exc} (h : dumps floatRepr v = .error e) : e = .valueError := by
  induction v with
  | none | str | float => cases h
  | bool b => cases b <;> cases h
  | int i =>
      simp only [dumps, dumpsInt] at h
      split at h
      · exact (Except.error.inj h).symm
      · cases h
  | list xs ih =>
      rcases bind_eq_error.mp h with hitems | ⟨parts, -, hpure⟩
      · obtain ⟨x, hx, hdumps⟩ := dumpsItems_error hitems
        exact ih x hx hdumps
      · cases hpure
  | dict members ih =>
      rcases bind_eq_error.mp h with hmembers | ⟨parts, -, hpure⟩
      · obtain ⟨m, hm, hdumps⟩ := dumpsMembers_error hmembers
        exact ih m hm hdumps
      · cases hpure

/-- The parser reads the text of a value, its surrogates joined. -/
theorem dumps_readsAs {v : PyVal} {text : PyStr} (hv : floatFree v = true)
    (h : dumps floatRepr v = .ok text) :
    ReadsAs toFloat text (v.rebuild joinSurrogates id) := by
  unfold floatFree at hv
  induction v generalizing text with
  | none =>
      cases h
      exact null_readsAs toFloat
  | bool b =>
      cases b with
      | true => cases h; exact true_readsAs toFloat
      | false => cases h; exact false_readsAs toFloat
  | float f => simp [PyVal.every] at hv
  | int i =>
      obtain ⟨-, rfl⟩ := dumpsInt_eq_ok.mp h
      exact decimal_readsAs toFloat i
  | str s =>
      cases h
      exact (dumpsStr_readsAs s).readsAs toFloat
  | list xs ih =>
      obtain ⟨parts, hparts, htext⟩ := bind_eq_ok.mp h
      cases htext
      rw [PyVal.rebuild_list]
      refine list_readsAs toFloat (separates_space ',') ?_
      rw [List.forall₂_map_right_iff]
      have hitems := (List.forall₂_and_left _ _).mpr ⟨fun _ hx => hx, dumpsItems_eq_ok.mp hparts⟩
      refine List.Forall₂.flip (hitems.imp ?_)
      intro x text hok
      obtain ⟨hx, hok⟩ := hok
      exact ih x hx ((PyVal.every_list.mp hv).2 x hx) hok
  | dict members ih =>
      obtain ⟨parts, hparts, htext⟩ := bind_eq_ok.mp h
      cases htext
      rw [PyVal.rebuild_dict]
      refine dict_readsAs toFloat (separates_space ',') (separates_space ':') ?_
      rw [id, List.forall₂_map_right_iff]
      have hmembers :=
        (List.forall₂_and_left _ _).mpr ⟨fun _ hm => hm, dumpsMembers_eq_ok.mp hparts⟩
      refine List.Forall₂.flip (hmembers.imp ?_)
      intro m part hok
      obtain ⟨hm, text, hok, rfl⟩ := hok
      exact ⟨dumpsStr m.1, text, rfl, dumpsStr_readsAs m.1,
        ih m hm ((PyVal.every_dict.mp hv).2 m hm) hok⟩

/-- An integer that was written is short enough to be read. -/
theorem dumps_withinDigits {v : PyVal} {text : PyStr} (h : dumps floatRepr v = .ok text) :
    withinDigits (v.rebuild joinSurrogates id) = true := by
  unfold withinDigits
  induction v generalizing text with
  | int i => simpa [PyVal.rebuild, PyVal.every] using (dumpsInt_eq_ok.mp h).1
  | list xs ih =>
      obtain ⟨parts, hparts, -⟩ := bind_eq_ok.mp h
      rw [PyVal.rebuild_list, PyVal.every_list]
      refine ⟨rfl, List.forall_mem_map.mpr fun x hx => ?_⟩
      obtain ⟨text, -, hok⟩ := exists_of_forall₂ (dumpsItems_eq_ok.mp hparts) hx
      exact ih x hx hok
  | dict members ih =>
      obtain ⟨parts, hparts, -⟩ := bind_eq_ok.mp h
      rw [PyVal.rebuild_dict, PyVal.every_dict]
      refine ⟨rfl, List.forall_mem_map.mpr fun m hm => ?_⟩
      obtain ⟨_, -, text, hok, -⟩ := exists_of_forall₂ (dumpsMembers_eq_ok.mp hparts) hm
      exact ih m hm hok
  | _ => rfl

/-- **Round trip.** Reading what `dumps` wrote gives the value with its surrogates joined. -/
theorem loads_dumps {v : PyVal} {text : PyStr} (hv : floatFree v = true)
    (h : dumps floatRepr v = .ok text) : loads toFloat text = .ok (reread v) := by
  have hreads : ReadsAs toFloat text (v.rebuild joinSurrogates id) := dumps_readsAs hv h
  have hvalue := hreads.reads text.length [] le_rfl trivial
  rw [List.append_nil] at hvalue
  have hparse : parse toFloat text = some (v.rebuild joinSurrogates id) := by
    simp only [parse, hreads.starts.skipWs, hvalue, Option.bind_eq_bind, Option.bind_some, skipWs,
      if_true]
  simp only [loads, hparse, dumps_withinDigits h, if_true, PyVal.rebuild_rebuild]
  rfl

/-- Nothing is lost, unless a string holds a high surrogate before a low one. -/
theorem reread_eq_self {v : PyVal} (hv : distinctKeys v = true) :
    reread v = v ↔ surrogatesUnpaired v = true := by
  unfold reread distinctKeys surrogatesUnpaired at *
  induction v with
  | str s => simpa [PyVal.rebuild, PyVal.every] using joinSurrogates_eq_self
  | list xs ih =>
      have hself : xs.map (PyVal.rebuild joinSurrogates Dict.ofPairs) = xs ↔
          ∀ x ∈ xs, x.rebuild joinSurrogates Dict.ofPairs = x := by
        conv_lhs => rhs; rw [← List.map_id' xs]
        exact List.map_inj_left
      rw [PyVal.rebuild_list, PyVal.list.injEq, hself, PyVal.every_list, and_iff_right rfl]
      exact forall₂_congr fun x hx => ih x hx ((PyVal.every_list.mp hv).2 x hx)
  | dict members ih =>
      obtain ⟨hkeys, hvalues⟩ := PyVal.every_dict.mp hv
      have hself : members.map (fun m => (joinSurrogates m.1,
          m.2.rebuild joinSurrogates Dict.ofPairs)) = members ↔
            ∀ m ∈ members, unpaired m.1 = true ∧ m.2.rebuild joinSurrogates Dict.ofPairs = m.2 := by
        conv_lhs => rhs; rw [← List.map_id' members]
        rw [List.map_inj_left]
        refine forall₂_congr fun m _ => ?_
        rw [Prod.ext_iff, joinSurrogates_eq_self]
      have hpairs : Dict.ofPairs (members.map fun m => (joinSurrogates m.1,
          m.2.rebuild joinSurrogates Dict.ofPairs)) = members ↔
            members.map (fun m => (joinSurrogates m.1,
              m.2.rebuild joinSurrogates Dict.ofPairs)) = members := by
        constructor
        · intro h
          rwa [Dict.ofPairs_of_length (by simp [h])] at h
        · intro h
          rw [h]
          exact Dict.ofPairs_of_nodup (by simpa using hkeys)
      rw [PyVal.rebuild_dict, PyVal.dict.injEq, hpairs, hself, PyVal.every_dict, forall₂_and,
        List.all_eq_true]
      exact and_congr_right fun _ => forall₂_congr fun m hm => ih m hm (hvalues m hm)
  | _ => simp [PyVal.rebuild, PyVal.every]

/-- An object with distinct keys keeps them if no key is changed. -/
theorem reread_dict {d : Dict} (hkeys : (d.map (·.1)).Nodup)
    (hunpaired : d.all (unpaired ·.1) = true) :
    reread (.dict d) = .dict (d.map fun m => (m.1, reread m.2)) := by
  have hmembers : d.map (fun m => (joinSurrogates m.1, m.2.rebuild joinSurrogates Dict.ofPairs)) =
      d.map fun m => (m.1, reread m.2) := by
    refine List.map_congr_left fun m hm => ?_
    rw [joinSurrogates_eq_self.mpr (List.all_eq_true.mp hunpaired m hm), reread]
  rw [reread, PyVal.rebuild_dict, hmembers, Dict.ofPairs_of_nodup]
  simpa [Function.comp_def] using hkeys

/-- Reading back makes no float. -/
theorem floatFree_reread {v : PyVal} (hv : floatFree v = true) : floatFree (reread v) = true := by
  unfold floatFree reread at *
  induction v with
  | list xs ih =>
      rw [PyVal.rebuild_list, PyVal.every_list]
      refine ⟨rfl, List.forall_mem_map.mpr fun x hx => ?_⟩
      exact ih x hx ((PyVal.every_list.mp hv).2 x hx)
  | dict members ih =>
      rw [PyVal.rebuild_dict, PyVal.every_dict]
      refine ⟨rfl, fun m hm => ?_⟩
      obtain ⟨m', hm', rfl⟩ := List.mem_map.mp (Dict.mem_of_mem_ofPairs hm)
      exact ih m' hm' ((PyVal.every_dict.mp hv).2 m' hm')
  | _ => exact hv

theorem loads_dumps_iff {v : PyVal} {text : PyStr} (hv : floatFree v = true)
    (hkeys : distinctKeys v = true) (h : dumps floatRepr v = .ok text) :
    loads toFloat text = .ok v ↔ surrogatesUnpaired v = true := by
  rw [loads_dumps hv h, Except.ok.injEq, reread_eq_self hkeys]

/-- Reading raises nothing but `ValueError`. -/
theorem loads_error {text : PyStr} {e : Exc} (h : loads toFloat text = .error e) :
    e = .valueError := by
  unfold loads at h
  split at h
  · split at h
    · cases h
    · exact (Except.error.inj h).symm
  · exact (Except.error.inj h).symm

end

end Json

end GmailGateway.Python
