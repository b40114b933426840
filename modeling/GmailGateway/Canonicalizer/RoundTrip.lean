import GmailGateway.Canonicalizer.Jcs
import GmailGateway.Python.Decimal
import GmailGateway.Python.Json
import GmailGateway.Python.Utf8

/-!
# GmailGateway.Canonicalizer.RoundTrip

**JCS texts are JSON.** A JSON parser reads a canonical text back as the value it was made
from, with the members of every object in the order of serialization (`ordered`). So the
canonical bytes determine the value up to the order of its members.

The proof follows the grammar: one lemma for strings, one for numbers, and for lists and
objects one about their items. Everything is stated with a text that follows, which begins
with a comma or a closing bracket wherever a number could be continued.
-/

namespace GmailGateway

open Python

namespace Jcs

variable (toFloat : PyStr → PyFloat)

/-! ### Literals -/

theorem ofChar_eq {c : CodePoint} {n : Nat} (h : c.val = n) : Fin.ofNat 0x110000 n = c := by
  subst h
  exact Fin.ext (Nat.mod_eq_of_lt c.isLt)

/-- The text after a value: nothing, a comma or a closing bracket. -/
def Delimited : PyStr → Prop
  | [] => True
  | c :: _ => c.val = 0x2C ∨ c.val = 0x5D ∨ c.val = 0x7D

theorem skipWs_cons {c : CodePoint} (h : Json.isWs c = false) (s : PyStr) :
    Json.skipWs (c :: s) = c :: s := by
  rw [Json.skipWs, h]
  rfl

/-! ### Strings -/

theorem hex4?_control {n : Nat} (hn : n < 0x20) :
    Json.hex4? (CodePoint.ofChar '0') (CodePoint.ofChar '0') (hexDigit (n / 16))
      (hexDigit (n % 16)) = some n := by
  have hzero : hexValue? (CodePoint.ofChar '0') = some 0 := by decide
  have hback : ((0 * 16 + 0) * 16 + n / 16) * 16 + n % 16 = n := by omega
  simp only [Json.hex4?, hzero, hexValue?_hexDigit _ (show n / 16 < 16 by omega),
    hexValue?_hexDigit _ (show n % 16 < 16 by omega), Option.bind_eq_bind, Option.bind_some, hback]
  rfl

/-- Only a high surrogate takes the next escape with it. -/
theorem lowSurrogate?_of_lt {hi : Nat} (h : hi < 0xD800) (s : PyStr) :
    Json.parseChar.lowSurrogate? hi s = none := by
  unfold Json.parseChar.lowSurrogate?
  split
  · rename_i b u h₁ h₂ h₃ h₄ s
    cases Json.hex4? h₁ h₂ h₃ h₄ with
    | none => rfl
    | some lo =>
        have hno : ¬ (0xD800 ≤ hi ∧ hi ≤ 0xDBFF ∧ b.val = 0x5C ∧ u.val = 0x75 ∧ 0xDC00 ≤ lo ∧
            lo ≤ 0xDFFF) := by omega
        simp only [Option.bind_eq_bind, Option.bind_some, if_neg hno]
  · rfl

theorem parseChar_short {e r : CodePoint} (hu : e.val ≠ 0x75) (hr : Json.shortEscape? e = some r)
    (s : PyStr) : Json.parseChar (CodePoint.ofChar '\\' :: e :: s) = some (r, s) := by
  have hslash : (CodePoint.ofChar '\\').val = 0x5C := by decide
  simp only [Json.parseChar, hslash, if_true, if_neg hu, hr, Option.map_some]

theorem parseChar_control {c : CodePoint} (hc : c.val < 0x20) (s : PyStr) :
    Json.parseChar (str "\\u00" ++ [hexDigit (c.val / 16), hexDigit (c.val % 16)] ++ s) =
      some (c, s) := by
  have hslash : (CodePoint.ofChar '\\').val = 0x5C := by decide
  have hu : (CodePoint.ofChar 'u').val = 0x75 := by decide
  show Json.parseChar (CodePoint.ofChar '\\' :: CodePoint.ofChar 'u' :: CodePoint.ofChar '0' ::
    CodePoint.ofChar '0' :: hexDigit (c.val / 16) :: hexDigit (c.val % 16) :: s) = some (c, s)
  simp only [Json.parseChar, hslash, hu, if_true, hex4?_control hc, Option.bind_eq_bind,
    Option.bind_some, lowSurrogate?_of_lt (show c.val < 0xD800 by omega), ofChar_eq rfl]
  rfl

theorem parseChar_literal {c : CodePoint} (hslash : c.val ≠ 0x5C) (hc : ¬ c.val < 0x20)
    (s : PyStr) : Json.parseChar (c :: s) = some (c, s) := by
  simp only [Json.parseChar, if_neg hslash, if_neg hc]

/-- The parser reads an escaped code point back. -/
theorem parseChar_escape (c : CodePoint) (s : PyStr) :
    Json.parseChar (escape c ++ s) = some (c, s) := by
  unfold escape
  split
  case h_8 hslash =>
    split
    case isTrue hc => exact parseChar_control hc s
    case isFalse hc => exact parseChar_literal hslash hc s
  all_goals
    rename_i h
    rw [← ofChar_eq h]
    exact parseChar_short (by decide) (by decide) s

/-- An escape does not start with a quote. -/
theorem escape_eq_cons (c : CodePoint) : ∃ d t, escape c = d :: t ∧ d.val ≠ 0x22 := by
  unfold escape
  split
  case h_8 hquote _ =>
    split
    case isTrue => exact ⟨_, _, rfl, by decide⟩
    case isFalse => exact ⟨c, [], rfl, hquote⟩
  all_goals exact ⟨_, _, rfl, by decide⟩

/-- The parser reads an escaped string back, up to its closing quote. -/
theorem parseChars_escape (s rest : PyStr) {n : Nat} (hn : (s.flatMap escape).length < n) :
    Json.parseChars n (s.flatMap escape ++ CodePoint.ofChar '"' :: rest) = some (s, rest) := by
  induction s generalizing n with
  | nil =>
      obtain ⟨n, rfl⟩ : ∃ m, n = m + 1 := ⟨n - 1, by simp at hn; omega⟩
      have hquote : (CodePoint.ofChar '"').val = 0x22 := by decide
      simp only [List.flatMap_nil, List.nil_append, Json.parseChars, hquote, if_true]
  | cons c s ih =>
      obtain ⟨d, t, hesc, hd⟩ := escape_eq_cons c
      rw [List.flatMap_cons, List.length_append, hesc, List.length_cons] at hn
      obtain ⟨n, rfl⟩ : ∃ m, n = m + 1 := ⟨n - 1, by omega⟩
      have hchar := parseChar_escape c (s.flatMap escape ++ CodePoint.ofChar '"' :: rest)
      rw [hesc] at hchar
      rw [List.flatMap_cons, List.append_assoc, hesc, List.cons_append, Json.parseChars, if_neg hd,
        ← List.cons_append, hchar]
      simp only [Option.bind_eq_bind, Option.bind_some, ih (show _ < n by omega)]
      rfl

/-! ### Numbers -/

theorem takeWhile_digits {ds rest : PyStr} (hds : ∀ c ∈ ds, 0x30 ≤ c.val ∧ c.val ≤ 0x39)
    (hrest : Delimited rest) :
    (ds ++ rest).takeWhile isDigit = ds ∧ (ds ++ rest).dropWhile isDigit = rest := by
  have hall : ∀ c ∈ ds, isDigit c = true := by
    intro c hc
    simpa [isDigit] using hds c hc
  rw [List.takeWhile_append_of_pos hall, List.dropWhile_append_of_pos hall]
  cases rest with
  | nil => simp
  | cons c rest =>
      have hc : isDigit c = false := by
        rcases hrest with h | h | h <;> simp [isDigit, h]
      simp [hc]

/-- After an integer there is neither a fraction nor an exponent. -/
theorem fraction_delimited {rest : PyStr} (h : Delimited rest) : Json.fraction rest = ([], rest) := by
  cases rest with
  | nil => rfl
  | cons c rest =>
      have hc : c.val ≠ 0x2E := by rcases h with h | h | h <;> omega
      simp only [Json.fraction, hc, false_and, if_false]

theorem exponent_delimited {rest : PyStr} (h : Delimited rest) : Json.exponent rest = ([], rest) := by
  cases rest with
  | nil => rfl
  | cons c rest =>
      have hc : ¬ (c.val = 0x65 ∨ c.val = 0x45) := by rcases h with h | h | h <;> omega
      simp only [Json.exponent, hc, false_and, if_false]

theorem intDigits_natDecimal (n : Nat) {rest : PyStr} (h : Delimited rest) :
    Json.intDigits (natDecimal n ++ rest) = (natDecimal n, rest) := by
  by_cases hn : n = 0
  · subst hn
    have hzero : (digitChar 0).val = 0x30 := by decide
    simp only [natDecimal_zero, List.singleton_append, Json.intDigits, hzero, if_true]
  · obtain ⟨d, ds, hd0, hd, hcons⟩ := natDecimal_eq_cons hn
    have hval : (digitChar d).val ≠ 0x30 := by
      rw [digitChar_val hd]
      omega
    obtain ⟨htake, hdrop⟩ := takeWhile_digits (fun c => val_of_mem_natDecimal (n := n)) h
    rw [hcons, List.cons_append] at htake hdrop ⊢
    simp only [Json.intDigits, hval, if_false, htake, hdrop]

theorem digitsValue_natDecimal (n : Nat) : Json.digitsValue (natDecimal n) = n :=
  ofDigits_natDecimal n

theorem minus_natDecimal (n : Nat) (rest : PyStr) :
    Json.minus (natDecimal n ++ rest) = (false, natDecimal n ++ rest) := by
  cases hdec : natDecimal n with
  | nil => exact absurd hdec (natDecimal_ne_nil n)
  | cons c ds =>
      have hc := val_of_mem_natDecimal (n := n) (c := c) (by simp [hdec])
      have hminus : c.val ≠ 0x2D := by omega
      simp only [List.cons_append, Json.minus, hminus, if_false]

/-- The parser reads an integer back. -/
theorem parseNumber_decimal (i : Int) {rest : PyStr} (h : Delimited rest) :
    Json.parseNumber toFloat (decimal i ++ rest) = some (.int i, rest) := by
  cases i with
  | ofNat n =>
      have hdec : decimal (Int.ofNat n) = natDecimal n := rfl
      simp only [hdec, Json.parseNumber, minus_natDecimal, intDigits_natDecimal n h,
        fraction_delimited h, exponent_delimited h, if_neg (natDecimal_ne_nil n), and_self,
        if_true, digitsValue_natDecimal]
      rfl
  | negSucc n =>
      have hdec : decimal (Int.negSucc n) = CodePoint.ofChar '-' :: natDecimal (n + 1) := rfl
      have hminus : (CodePoint.ofChar '-').val = 0x2D := by decide
      simp only [hdec, List.cons_append, Json.parseNumber, Json.minus, hminus, if_true,
        intDigits_natDecimal _ h, fraction_delimited h, exponent_delimited h,
        if_neg (natDecimal_ne_nil _), and_self, digitsValue_natDecimal]
      rfl

/-! ### Values -/

mutual

/-- The value with the members of every object in the order of serialization. -/
def ordered : PyVal → PyVal
  | .list xs => .list (orderedItems xs)
  | .dict members => .dict (sortedMembers (orderedMembers members))
  | v => v

def orderedItems : List PyVal → List PyVal
  | [] => []
  | v :: vs => ordered v :: orderedItems vs

def orderedMembers : List (PyStr × PyVal) → List (PyStr × PyVal)
  | [] => []
  | (key, v) :: members => (key, ordered v) :: orderedMembers members

end

theorem orderedItems_eq (xs : List PyVal) : orderedItems xs = xs.map ordered := by
  induction xs with
  | nil => rfl
  | cons x xs ih => rw [orderedItems, ih, List.map_cons]

theorem orderedMembers_eq (members : List (PyStr × PyVal)) :
    orderedMembers members = members.map fun m => (m.1, ordered m.2) := by
  induction members with
  | nil => rfl
  | cons m members ih => rw [orderedMembers, ih, List.map_cons]

theorem ordered_list (xs : List PyVal) : ordered (.list xs) = .list (xs.map ordered) := by
  rw [ordered, orderedItems_eq]

/-- Ordering the values of the members does not move the members. -/
theorem ordered_dict (members : List (PyStr × PyVal)) :
    ordered (.dict members) =
      .dict ((sortedMembers members).map fun m => (m.1, ordered m.2)) := by
  rw [ordered, orderedMembers_eq, sortedMembers, sortedMembers]
  exact congrArg PyVal.dict (List.map_insertionSort KeyLe KeyLe
    (fun m : PyStr × PyVal => (m.1, ordered m.2)) members fun _ _ _ _ => Iff.rfl).symm

/-- The text starts like a JSON value: with no white space, and not with a closing bracket. -/
def Starts : PyStr → Prop
  | [] => False
  | c :: _ => Json.isWs c = false ∧ c.val ≠ 0x5D ∧ c.val ≠ 0x7D

theorem Starts.append {text : PyStr} (h : Starts text) (rest : PyStr) : Starts (text ++ rest) := by
  cases text with
  | nil => exact absurd h id
  | cons c text => exact h

theorem Starts.skipWs {text : PyStr} (h : Starts text) : Json.skipWs text = text := by
  cases text with
  | nil => rfl
  | cons c text => exact skipWs_cons h.1 text

/-- The parser reads the text as the value, whatever follows it. -/
structure ReadsAs (text : PyStr) (v : PyVal) : Prop where
  starts : Starts text
  reads : ∀ n rest, text.length ≤ n → Delimited rest →
    Json.parseValue toFloat n (text ++ rest) = some (v, rest)

/-- The parser is on a text that does not start a literal, a string, a list or an object. -/
theorem parseValue_number {n : Nat} {c : CodePoint} {s : PyStr}
    (hc : c.val = 0x2D ∨ 0x30 ≤ c.val ∧ c.val ≤ 0x39) :
    Json.parseValue toFloat (n + 1) (c :: s) =
      (Json.parseNumber toFloat (c :: s)).or (Json.parseConstant (c :: s)) := by
  have hquote : c.val ≠ 0x22 := by omega
  have hlist : c.val ≠ 0x5B := by omega
  have hdict : c.val ≠ 0x7B := by omega
  have hnull : c.val ≠ 0x6E := by omega
  have htrue : c.val ≠ 0x74 := by omega
  have hfalse : c.val ≠ 0x66 := by omega
  simp only [Json.parseValue, hquote, hlist, hdict, hnull, htrue, hfalse, if_false]

theorem decimal_head (i : Int) : ∃ c ds, decimal i = c :: ds ∧
    (c.val = 0x2D ∨ 0x30 ≤ c.val ∧ c.val ≤ 0x39) := by
  cases i with
  | ofNat n =>
      cases hdec : natDecimal n with
      | nil => exact absurd hdec (natDecimal_ne_nil n)
      | cons c ds =>
          exact ⟨c, ds, hdec, .inr (val_of_mem_natDecimal (n := n) (by simp [hdec]))⟩
  | negSucc n => exact ⟨CodePoint.ofChar '-', natDecimal (n + 1), rfl, .inl (by decide)⟩

theorem decimal_readsAs (i : Int) : ReadsAs toFloat (decimal i) (.int i) := by
  obtain ⟨c, ds, hdec, hc⟩ := decimal_head i
  constructor
  · rw [hdec]
    refine ⟨?_, by omega, by omega⟩
    have h₁ : c.val ≠ 0x20 := by omega
    have h₂ : c.val ≠ 0x09 := by omega
    have h₃ : c.val ≠ 0x0A := by omega
    have h₄ : c.val ≠ 0x0D := by omega
    simp [Json.isWs, h₁, h₂, h₃, h₄]
  · intro n rest hn hrest
    rw [hdec, List.length_cons] at hn
    obtain ⟨n, rfl⟩ : ∃ m, n = m + 1 := ⟨n - 1, by omega⟩
    have hnumber := parseNumber_decimal toFloat i hrest
    rw [hdec, List.cons_append] at hnumber ⊢
    rw [parseValue_number toFloat hc, hnumber, Option.some_or]

/-- The text is a quoted string that the parser reads as `s`, up to its closing quote. -/
def StringReadsAs (text s : PyStr) : Prop :=
  ∃ inner, text = CodePoint.ofChar '"' :: inner ∧ ∀ n rest, inner.length ≤ n →
    Json.parseChars n (inner ++ rest) = some (s, rest)

theorem StringReadsAs.readsAs {text s : PyStr} (h : StringReadsAs text s) :
    ReadsAs toFloat text (.str s) := by
  obtain ⟨inner, rfl, hinner⟩ := h
  have hquote : (CodePoint.ofChar '"').val = 0x22 := by decide
  refine ⟨⟨by decide, by decide, by decide⟩, fun n rest hn _ => ?_⟩
  rw [List.length_cons] at hn
  obtain ⟨n, rfl⟩ : ∃ m, n = m + 1 := ⟨n - 1, by omega⟩
  simp only [List.cons_append, Json.parseValue, hquote, if_true,
    hinner n rest (show _ ≤ n by omega), Option.map_some]

theorem serializeString_readsAs (s : PyStr) : StringReadsAs (serializeString s) s := by
  refine ⟨s.flatMap escape ++ str "\"", by simp [serializeString, str], fun n rest hn => ?_⟩
  rw [List.length_append] at hn
  rw [List.append_assoc]
  exact parseChars_escape s rest hn

/-! ### Lists and objects -/

/-- The separator is the punctuation mark `c` and then white space. -/
def Separates (c : Char) (sep : PyStr) : Prop :=
  ∃ space, sep = CodePoint.ofChar c :: space ∧ ∀ s, Json.skipWs (space ++ s) = Json.skipWs s

theorem separates_self (c : Char) : Separates c [CodePoint.ofChar c] := ⟨[], rfl, fun _ => rfl⟩

theorem separates_space (c : Char) : Separates c [CodePoint.ofChar c, CodePoint.ofChar ' '] :=
  ⟨[CodePoint.ofChar ' '], rfl, fun s => by
    rw [List.singleton_append, Json.skipWs, if_pos (by decide)]⟩

theorem starts_intercalate {text : PyStr} (h : Starts text) (sep : PyStr) (parts : List PyStr) :
    Starts (sep.intercalate (text :: parts)) := by
  cases parts with
  | nil => simpa [List.intercalate] using h
  | cons part parts =>
      rw [List.intercalate_cons_cons, List.append_assoc]
      exact h.append _

theorem comma_val : (CodePoint.ofChar ',').val = 0x2C := by decide

theorem bracket_val : (CodePoint.ofChar ']').val = 0x5D := by decide

theorem brace_val : (CodePoint.ofChar '\x7d').val = 0x7D := by decide

theorem delimited_comma (s : PyStr) : Delimited (CodePoint.ofChar ',' :: s) := .inl comma_val

theorem delimited_bracket (s : PyStr) : Delimited (CodePoint.ofChar ']' :: s) :=
  .inr (.inl bracket_val)

theorem delimited_brace (s : PyStr) : Delimited (CodePoint.ofChar '\x7d' :: s) :=
  .inr (.inr brace_val)

theorem skipWs_comma (s : PyStr) :
    Json.skipWs (CodePoint.ofChar ',' :: s) = CodePoint.ofChar ',' :: s :=
  skipWs_cons (by decide) s

theorem skipWs_bracket (s : PyStr) :
    Json.skipWs (CodePoint.ofChar ']' :: s) = CodePoint.ofChar ']' :: s :=
  skipWs_cons (by decide) s

theorem skipWs_brace (s : PyStr) :
    Json.skipWs (CodePoint.ofChar '\x7d' :: s) = CodePoint.ofChar '\x7d' :: s :=
  skipWs_cons (by decide) s

/-- Separated texts, of which there are at least two. -/
theorem intercalate_append (sep text part : PyStr) (parts : List PyStr) (rest : PyStr) :
    sep.intercalate (text :: part :: parts) ++ rest =
      text ++ (sep ++ (sep.intercalate (part :: parts) ++ rest)) := by
  rw [List.intercalate_cons_cons, List.append_assoc, List.append_assoc]

theorem intercalate_length (sep text part : PyStr) (parts : List PyStr) :
    (sep.intercalate (text :: part :: parts)).length =
      text.length + sep.length + (sep.intercalate (part :: parts)).length := by
  rw [List.intercalate_cons_cons, List.length_append, List.length_append]

theorem bracketed_length {opening closing inner : PyStr} {n : Nat}
    (hn : (opening ++ inner ++ closing).length ≤ n) (ho : opening.length = 1)
    (hc : closing.length = 1) : inner.length + 2 ≤ n := by
  rw [List.length_append, List.length_append] at hn
  omega

section
variable {comma colon : PyStr} (hcomma : Separates ',' comma) (hcolon : Separates ':' colon)

include hcomma

/-- The parser reads the items of a list back, up to the closing bracket. -/
theorem parseItems_parts {x : PyVal} {text : PyStr} (hx : ReadsAs toFloat text x) {xs : List PyVal}
    {parts : List PyStr} (hxs : List.Forall₂ (fun text x => ReadsAs toFloat text x) parts xs) :
    ∀ n rest, (comma.intercalate (text :: parts)).length < n →
      Json.parseItems toFloat n
        (comma.intercalate (text :: parts) ++ CodePoint.ofChar ']' :: rest) =
          some (x :: xs, rest) := by
  induction hxs generalizing x text with
  | nil =>
      intro n rest hn
      obtain ⟨n, rfl⟩ : ∃ m, n = m + 1 := ⟨n - 1, by omega⟩
      have htext : comma.intercalate [text] = text := by simp [List.intercalate]
      rw [htext] at hn ⊢
      have hvalue := hx.reads n (CodePoint.ofChar ']' :: rest) (by omega) (delimited_bracket rest)
      simp only [Json.parseItems, hvalue, Option.bind_eq_bind, Option.bind_some, skipWs_bracket,
        bracket_val]
      rfl
  | @cons part y parts ys hy _ ih =>
      intro n rest hn
      obtain ⟨n, rfl⟩ : ∃ m, n = m + 1 := ⟨n - 1, by omega⟩
      have hstarts := (starts_intercalate hy.starts comma parts).append
        (CodePoint.ofChar ']' :: rest)
      have hys := ih hy n rest
      rw [intercalate_length] at hn
      obtain ⟨space, rfl, hspace⟩ := hcomma
      rw [List.length_cons] at hn
      rw [intercalate_append, List.cons_append]
      have hvalue := fun s => hx.reads n (CodePoint.ofChar ',' :: s) (by omega) (delimited_comma s)
      simp only [Json.parseItems, hvalue, Option.bind_eq_bind, Option.bind_some, skipWs_comma,
        comma_val, if_true, hspace, hstarts.skipWs, hys (by omega)]
      rfl

omit hcomma

/-- The text of a member: its key, a colon, and the text of its value. -/
def MemberReadsAs (colon text : PyStr) (m : PyStr × PyVal) : Prop :=
  ∃ keyText valueText, text = keyText ++ colon ++ valueText ∧ StringReadsAs keyText m.1 ∧
    ReadsAs toFloat valueText m.2

theorem MemberReadsAs.starts {text : PyStr} {m : PyStr × PyVal}
    (h : MemberReadsAs toFloat colon text m) : Starts text := by
  obtain ⟨keyText, valueText, rfl, hkey, -⟩ := h
  rw [List.append_assoc]
  exact (hkey.readsAs toFloat).starts.append _

include hcolon

/-- What the parser does with a member, and then with what follows it. -/
theorem parseMembers_member {text : PyStr} {m : PyStr × PyVal}
    (h : MemberReadsAs toFloat colon text m) {n : Nat} (hn : text.length ≤ n) {rest : PyStr}
    (hrest : Delimited rest) :
    Json.parseMembers toFloat (n + 1) (text ++ rest) =
      match Json.skipWs rest with
      | [] => none
      | d :: s =>
          if d.val = 0x2C then do
            let (members, s) ← Json.parseMembers toFloat n (Json.skipWs s)
            pure (m :: members, s)
          else if d.val = 0x7D then some ([m], s)
          else none := by
  obtain ⟨_, valueText, rfl, ⟨inner, rfl, hinner⟩, hvalue⟩ := h
  obtain ⟨space, rfl, hspace⟩ := hcolon
  have hquote : (CodePoint.ofChar '"').val = 0x22 := by decide
  have hmark : (CodePoint.ofChar ':').val = 0x3A := by decide
  have hskip : ∀ s, Json.skipWs (CodePoint.ofChar ':' :: s) = CodePoint.ofChar ':' :: s :=
    skipWs_cons (by decide)
  have hvalueSkip : Json.skipWs (space ++ (valueText ++ rest)) = valueText ++ rest :=
    (hspace _).trans (hvalue.starts.append rest).skipWs
  simp only [List.length_append, List.length_cons] at hn
  cases hafter : Json.skipWs rest <;>
    simp only [List.append_assoc, List.cons_append, Json.parseMembers, hquote, if_true,
      hinner n _ (show inner.length ≤ n by omega), Option.bind_eq_bind, Option.bind_some, hskip,
      hmark, hvalueSkip, hvalue.reads n rest (by omega) hrest, hafter]

include hcomma

/-- The parser reads the members of an object back, up to the closing brace. -/
theorem parseMembers_parts {m : PyStr × PyVal} {text : PyStr}
    (hm : MemberReadsAs toFloat colon text m) {members : List (PyStr × PyVal)} {parts : List PyStr}
    (hmembers : List.Forall₂ (fun text m => MemberReadsAs toFloat colon text m) parts members) :
    ∀ n rest, (comma.intercalate (text :: parts)).length < n →
      Json.parseMembers toFloat n
        (comma.intercalate (text :: parts) ++ CodePoint.ofChar '\x7d' :: rest) =
          some (m :: members, rest) := by
  induction hmembers generalizing m text with
  | nil =>
      intro n rest hn
      obtain ⟨n, rfl⟩ : ∃ m, n = m + 1 := ⟨n - 1, by omega⟩
      have htext : comma.intercalate [text] = text := by simp [List.intercalate]
      rw [htext] at hn ⊢
      rw [parseMembers_member toFloat hcolon hm (show text.length ≤ n by omega)
        (delimited_brace rest), skipWs_brace]
      simp only [brace_val]
      rfl
  | @cons part m' parts members hm' _ ih =>
      intro n rest hn
      obtain ⟨n, rfl⟩ : ∃ m, n = m + 1 := ⟨n - 1, by omega⟩
      have hstarts := (starts_intercalate hm'.starts comma parts).append
        (CodePoint.ofChar '\x7d' :: rest)
      have hmembers := ih hm' n rest
      rw [intercalate_length] at hn
      obtain ⟨space, rfl, hspace⟩ := hcomma
      rw [List.length_cons] at hn
      rw [intercalate_append, List.cons_append, parseMembers_member toFloat hcolon hm
        (show text.length ≤ n by omega) (delimited_comma _), skipWs_comma]
      simp only [comma_val, if_true, hspace, hstarts.skipWs, hmembers (by omega),
        Option.bind_eq_bind, Option.bind_some]
      rfl

omit hcolon

theorem list_readsAs {parts : List PyStr} {xs : List PyVal}
    (h : List.Forall₂ (fun text x => ReadsAs toFloat text x) parts xs) :
    ReadsAs toFloat (str "[" ++ comma.intercalate parts ++ str "]") (.list xs) := by
  have hlist : (CodePoint.ofChar '[').val = 0x5B := by decide
  refine ⟨⟨by decide, by decide, by decide⟩, fun n rest hn _ => ?_⟩
  have hlength := bracketed_length hn rfl rfl
  obtain ⟨n, rfl⟩ : ∃ m, n = m + 1 := ⟨n - 1, by omega⟩
  have htext : str "[" ++ comma.intercalate parts ++ str "]" ++ rest =
      CodePoint.ofChar '[' :: (comma.intercalate parts ++ CodePoint.ofChar ']' :: rest) := by
    simp [str]
  rw [htext]
  cases h with
  | nil =>
      have hnil : comma.intercalate [] = [] := rfl
      simp only [hnil, List.nil_append, Json.parseValue, hlist, skipWs_bracket, bracket_val]
      rfl
  | @cons text x parts xs hx hxs =>
      have hstarts := (starts_intercalate hx.starts comma parts).append
        (CodePoint.ofChar ']' :: rest)
      have hitems := parseItems_parts toFloat hcomma hx hxs n rest (by omega)
      have hskip := hstarts.skipWs
      cases hinner : comma.intercalate (text :: parts) ++ CodePoint.ofChar ']' :: rest with
      | nil =>
          rw [hinner] at hstarts
          exact absurd hstarts id
      | cons d s =>
          rw [hinner] at hstarts hitems hskip
          simp only [Json.parseValue, hlist, hskip, if_neg hstarts.2.1, hitems]
          rfl

include hcolon

theorem dict_readsAs {parts : List PyStr} {members : List (PyStr × PyVal)}
    (h : List.Forall₂ (fun text m => MemberReadsAs toFloat colon text m) parts members) :
    ReadsAs toFloat (str "\x7b" ++ comma.intercalate parts ++ str "\x7d") (.dict members) := by
  have hdict : (CodePoint.ofChar '\x7b').val = 0x7B := by decide
  refine ⟨⟨by decide, by decide, by decide⟩, fun n rest hn _ => ?_⟩
  have hlength := bracketed_length hn rfl rfl
  obtain ⟨n, rfl⟩ : ∃ m, n = m + 1 := ⟨n - 1, by omega⟩
  have htext : str "\x7b" ++ comma.intercalate parts ++ str "\x7d" ++ rest =
      CodePoint.ofChar '\x7b' ::
        (comma.intercalate parts ++ CodePoint.ofChar '\x7d' :: rest) := by
    simp [str]
  rw [htext]
  cases h with
  | nil =>
      have hnil : comma.intercalate [] = [] := rfl
      simp only [hnil, List.nil_append, Json.parseValue, hdict, skipWs_brace, brace_val]
      rfl
  | @cons text m parts members hm hmembers =>
      have hstarts := (starts_intercalate (hm.starts toFloat) comma parts).append
        (CodePoint.ofChar '\x7d' :: rest)
      have hparsed := parseMembers_parts toFloat hcomma hcolon hm hmembers n rest (by omega)
      have hskip := hstarts.skipWs
      cases hinner : comma.intercalate (text :: parts) ++ CodePoint.ofChar '\x7d' :: rest with
      | nil =>
          rw [hinner] at hstarts
          exact absurd hstarts id
      | cons d s =>
          rw [hinner] at hstarts hparsed hskip
          simp only [Json.parseValue, hdict, hskip, if_neg hstarts.2.2, hparsed]
          rfl

end

theorem afterLiteral_append (lit s : PyStr) : Json.afterLiteral lit (lit ++ s) = some s := by
  induction lit with
  | nil => rfl
  | cons c lit ih => rw [List.cons_append, Json.afterLiteral, if_pos rfl, ih]

theorem null_readsAs : ReadsAs toFloat (str "null") .none := by
  refine ⟨⟨by decide, by decide, by decide⟩, fun n rest hn _ => ?_⟩
  obtain ⟨n, rfl⟩ : ∃ m, n = m + 1 := ⟨n - 1, by simp [str] at hn; omega⟩
  have htext : str "null" ++ rest = CodePoint.ofChar 'n' :: (str "ull" ++ rest) := rfl
  have hc : (CodePoint.ofChar 'n').val = 0x6E := by decide
  rw [htext]
  simp only [Json.parseValue, hc, afterLiteral_append]
  rfl

theorem true_readsAs : ReadsAs toFloat (str "true") (.bool true) := by
  refine ⟨⟨by decide, by decide, by decide⟩, fun n rest hn _ => ?_⟩
  obtain ⟨n, rfl⟩ : ∃ m, n = m + 1 := ⟨n - 1, by simp [str] at hn; omega⟩
  have htext : str "true" ++ rest = CodePoint.ofChar 't' :: (str "rue" ++ rest) := rfl
  have hc : (CodePoint.ofChar 't').val = 0x74 := by decide
  rw [htext]
  simp only [Json.parseValue, hc, afterLiteral_append]
  rfl

theorem false_readsAs : ReadsAs toFloat (str "false") (.bool false) := by
  refine ⟨⟨by decide, by decide, by decide⟩, fun n rest hn _ => ?_⟩
  obtain ⟨n, rfl⟩ : ∃ m, n = m + 1 := ⟨n - 1, by simp [str] at hn; omega⟩
  have htext : str "false" ++ rest = CodePoint.ofChar 'f' :: (str "alse" ++ rest) := rfl
  have hc : (CodePoint.ofChar 'f').val = 0x66 := by decide
  rw [htext]
  simp only [Json.parseValue, hc, afterLiteral_append]
  rfl

/-! ### The round trip -/

/-- What serializing a value gives is read back. -/
def Reads (v : PyVal) : Prop := ∀ text, serialize v = .ok text → ReadsAs toFloat text (ordered v)

/-- The parts of a text are read as the items they were made from. -/
theorem readsAs_parts {α : Type} {part : α → Except Exc PyStr} {R : PyStr → α → Prop}
    {xs : List α} {parts : List PyStr} (hparts : xs.mapM part = .ok parts)
    (h : ∀ x ∈ xs, ∀ text, part x = .ok text → R text x) : List.Forall₂ R parts xs := by
  induction xs generalizing parts with
  | nil =>
      cases hparts
      exact .nil
  | cons x xs ih =>
      obtain ⟨text, parts', hx, hxs, rfl⟩ := List.forall₂_cons_left_iff.mp (mapM_eq_ok.mp hparts)
      exact .cons (h x List.mem_cons_self text hx)
        (ih (mapM_eq_ok.mpr hxs) fun y hy => h y (List.mem_cons_of_mem x hy))

theorem reads_list {xs : List PyVal} (hxs : ∀ x ∈ xs, Reads toFloat x) :
    Reads toFloat (.list xs) := by
  intro text htext
  rw [serialize_list] at htext
  obtain ⟨parts, hparts, htext⟩ := bind_eq_ok.mp htext
  cases htext
  rw [ordered_list]
  refine list_readsAs toFloat (separates_self ',') ?_
  rw [List.forall₂_map_right_iff]
  exact readsAs_parts hparts hxs

theorem reads_dict {members : List (PyStr × PyVal)} (hmembers : ∀ m ∈ members, Reads toFloat m.2) :
    Reads toFloat (.dict members) := by
  intro text htext
  rw [serialize_dict] at htext
  split at htext
  case isFalse => cases htext
  case isTrue =>
    obtain ⟨parts, hparts, htext⟩ := bind_eq_ok.mp htext
    cases htext
    rw [ordered_dict]
    refine dict_readsAs toFloat (separates_self ',') (separates_self ':') ?_
    rw [List.forall₂_map_right_iff]
    refine readsAs_parts hparts fun m hm text hpart => ?_
    -- A member's text is its key and the text of its value.
    rw [memberText] at hpart
    cases hvalue : serialize m.2 with
    | error e =>
        rw [hvalue] at hpart
        cases hpart
    | ok valueText =>
        rw [hvalue] at hpart
        cases hpart
        exact ⟨serializeString m.1, valueText, rfl, serializeString_readsAs m.1,
          hmembers m (mem_sortedMembers.mp hm) valueText hvalue⟩

theorem serialize_reads (v : PyVal) : Reads toFloat v := by
  induction v with
  | none =>
      intro _ h
      cases h
      exact null_readsAs toFloat
  | bool b =>
      intro _ h
      cases b with
      | true => cases h; exact true_readsAs toFloat
      | false => cases h; exact false_readsAs toFloat
  | float f =>
      intro _ h
      cases h
  | int i =>
      intro _ h
      obtain ⟨-, rfl⟩ := serializeNumber_eq_ok.mp h
      exact decimal_readsAs toFloat i
  | str s =>
      intro _ h
      cases h
      exact (serializeString_readsAs s).readsAs toFloat
  | list xs ih => exact reads_list toFloat ih
  | dict members ih => exact reads_dict toFloat ih

theorem canonicalize_eq_ok {v : PyVal} {bytes : Bytes} :
    canonicalize v = .ok bytes ↔
      ∃ text, serialize v = .ok text ∧ encodeUtf8 text = some bytes := by
  rw [canonicalize, bind_eq_ok]
  refine exists_congr fun text => and_congr_right fun _ => ?_
  cases encodeUtf8 text <;> simp

/-- **Round trip.** A JSON parser reads the canonical bytes of a value back as the value, with
its members ordered. -/
theorem parse_canonicalize {v : PyVal} {bytes : Bytes} (h : canonicalize v = .ok bytes) :
    (decodeUtf8 bytes).bind (Json.parse toFloat) = some (ordered v) := by
  obtain ⟨text, htext, hbytes⟩ := canonicalize_eq_ok.mp h
  have hreads := serialize_reads toFloat v text htext
  have hvalue := hreads.reads text.length [] le_rfl trivial
  rw [List.append_nil] at hvalue
  rw [decodeUtf8_encodeUtf8 hbytes]
  simp only [Json.parse, hreads.starts.skipWs, hvalue, Option.bind_eq_bind, Option.bind_some,
    Json.skipWs, if_true]

/-- The canonical bytes determine the value up to the order of its members. -/
theorem canonicalize_inj {v w : PyVal} {bytes : Bytes} (hv : canonicalize v = .ok bytes)
    (hw : canonicalize w = .ok bytes) : ordered v = ordered w :=
  Option.some.inj ((parse_canonicalize (fun _ => .nan) hv).symm.trans
    (parse_canonicalize (fun _ => .nan) hw))

/-! ### Members of an ordered value

Ordering moves the members of an object and keeps what its keys read. -/

theorem lookup_orderedInsert (m : PyStr × PyVal) (members : Dict) (key : PyStr) :
    List.lookup key (List.orderedInsert KeyLe m members) = List.lookup key (m :: members) := by
  induction members with
  | nil => rfl
  | cons n members ih =>
      rw [List.orderedInsert]
      split
      case isTrue => rfl
      case isFalse hle =>
        -- The member that is passed has another key.
        have hne : m.1 ≠ n.1 := by
          intro heq
          refine hle (show utf16SortKey m.1 ≤ utf16SortKey n.1 from ?_)
          rw [heq]
          exact List.le_refl _
        rw [List.lookup_cons, ih, List.lookup_cons, List.lookup_cons, List.lookup_cons]
        by_cases hm : key = m.1
        · have hn : (key == n.1) = false := beq_false_of_ne fun h => hne (hm.symm.trans h)
          simp [hn]
        · have hm' : (key == m.1) = false := beq_false_of_ne hm
          simp [hm']

theorem get?_sortedMembers (members : Dict) (key : PyStr) :
    Dict.get? (sortedMembers members) key = Dict.get? members key := by
  induction members with
  | nil => rfl
  | cons m members ih =>
      have hinsert := lookup_orderedInsert m (sortedMembers members) key
      rw [List.lookup_cons] at hinsert
      show List.lookup key (List.orderedInsert KeyLe m (sortedMembers members)) = _
      rw [hinsert, show List.lookup key (sortedMembers members) = _ from ih, Dict.get?, Dict.get?,
        List.lookup_cons]

theorem get?_map_ordered (members : Dict) (key : PyStr) :
    Dict.get? (members.map fun m => (m.1, ordered m.2)) key =
      (Dict.get? members key).map ordered := by
  induction members with
  | nil => rfl
  | cons m members ih =>
      rw [Dict.get?] at ih ⊢
      rw [List.map_cons, List.lookup_cons, ih, Dict.get?, Dict.get?, List.lookup_cons]
      cases key == m.1 <;> rfl

/-- Objects that are equal up to order read the same under every key, up to order. -/
theorem ordered_get {b₁ b₂ : Dict} (h : ordered (.dict b₁) = ordered (.dict b₂)) (key : PyStr) :
    ordered (b₁.get key) = ordered (b₂.get key) := by
  rw [ordered_dict, ordered_dict] at h
  have hget := congrArg (fun members => Dict.get? members key) (PyVal.dict.inj h)
  simp only [get?_map_ordered, get?_sortedMembers] at hget
  unfold Dict.get
  cases h₁ : b₁.get? key <;> cases h₂ : b₂.get? key <;> simp_all

/-! ### No control characters -/

/-- Text without a C0 control character. -/
def Printable (text : PyStr) : Prop := (text.any fun c => c.val < 0x20) = false

instance (text : PyStr) : Decidable (Printable text) := inferInstanceAs (Decidable (_ = false))

theorem printable_iff {text : PyStr} : Printable text ↔ ∀ c ∈ text, 0x20 ≤ c.val := by
  simp [Printable]

@[simp] theorem printable_append {s t : PyStr} :
    Printable (s ++ t) ↔ Printable s ∧ Printable t := by
  simp [Printable]

theorem printable_intercalate {sep : PyStr} (hsep : Printable sep) {parts : List PyStr}
    (hparts : ∀ part ∈ parts, Printable part) : Printable (sep.intercalate parts) := by
  induction parts with
  | nil => rfl
  | cons part parts ih =>
      obtain ⟨hpart, hparts⟩ := List.forall_mem_cons.mp hparts
      cases parts with
      | nil => simpa [List.intercalate] using hpart
      | cons part' parts =>
          rw [List.intercalate_cons_cons, printable_append, printable_append]
          exact ⟨⟨hpart, hsep⟩, ih hparts⟩

theorem printable_hexDigits : ∀ n : Fin 32,
    Printable (str "\\u00" ++ [hexDigit (n.val / 16), hexDigit (n.val % 16)]) := by
  decide

/-- Every control character is escaped. -/
theorem printable_escape (c : CodePoint) : Printable (escape c) := by
  unfold escape
  split
  case h_8 =>
    split
    case isTrue h => exact printable_hexDigits ⟨c.val, h⟩
    case isFalse h => simpa [Printable] using h
  all_goals decide

theorem printable_serializeString (s : PyStr) : Printable (serializeString s) := by
  have hquote : Printable (str "\"") := by decide
  have hescaped : Printable (s.flatMap escape) := by
    rw [printable_iff]
    intro c hc
    obtain ⟨d, -, hd⟩ := List.mem_flatMap.mp hc
    exact printable_iff.mp (printable_escape d) c hd
  simp [serializeString, hquote, hescaped]

theorem printable_decimal (i : Int) : Printable (decimal i) := by
  have hdigits : ∀ n, Printable (natDecimal n) := by
    intro n
    rw [printable_iff]
    intro c hc
    have := (val_of_mem_natDecimal hc).1
    omega
  cases i with
  | ofNat n => exact hdigits n
  | negSucc n =>
      have hminus : Printable [CodePoint.ofChar '-'] := by decide
      exact printable_append.mpr ⟨hminus, hdigits (n + 1)⟩

theorem joined_printable {α : Type} {opening closing : PyStr} {part : α → Except Exc PyStr}
    {xs : List α} {text : PyStr} (hopening : Printable opening) (hclosing : Printable closing)
    (hpart : ∀ x ∈ xs, ∀ text, part x = .ok text → Printable text)
    (h : joined opening closing part xs = .ok text) : Printable text := by
  obtain ⟨parts, hparts, h⟩ := bind_eq_ok.mp h
  cases h
  have hall : ∀ text ∈ parts, Printable text := by
    intro text htext
    obtain ⟨x, hx, hok⟩ := exists_of_forall₂' (mapM_eq_ok.mp hparts) htext
    exact hpart x hx text hok
  have hcomma : Printable (str ",") := by decide
  rw [printable_append, printable_append]
  exact ⟨⟨hopening, printable_intercalate hcomma hall⟩, hclosing⟩

theorem memberText_printable {m : PyStr × PyVal}
    (h : ∀ text, serialize m.2 = .ok text → Printable text) :
    ∀ text, memberText m = .ok text → Printable text := by
  intro text htext
  rw [memberText] at htext
  cases hvalue : serialize m.2 with
  | error e =>
      rw [hvalue] at htext
      cases htext
  | ok valueText =>
      rw [hvalue] at htext
      cases htext
      have hcolon : Printable (str ":") := by decide
      simp [printable_serializeString, hcolon, h valueText hvalue]

theorem serialize_printable (v : PyVal) :
    ∀ text, serialize v = .ok text → Printable text := by
  induction v with
  | none =>
      intro _ h
      cases h
      decide
  | bool b =>
      intro _ h
      cases b <;> cases h <;> decide
  | float f =>
      intro _ h
      cases h
  | int i =>
      intro _ h
      obtain ⟨-, rfl⟩ := serializeNumber_eq_ok.mp h
      exact printable_decimal i
  | str s =>
      intro _ h
      cases h
      exact printable_serializeString s
  | list xs ih =>
      intro text h
      rw [serialize_list] at h
      exact joined_printable (by decide) (by decide) ih h
  | dict members ih =>
      intro text h
      rw [serialize_dict] at h
      split at h
      case isFalse => cases h
      case isTrue =>
        exact joined_printable (by decide) (by decide) (fun m hm => memberText_printable
          (ih m (mem_sortedMembers.mp hm))) h

theorem utf8_ne_zero {c : CodePoint} (h : c.val ≠ 0) : 0 ∉ c.utf8 := by
  have hc := c.isLt
  have hbyte : ∀ n, 0 < n → n < 256 → (0 : UInt8) ≠ .ofNat n := by
    intro n hpos hn heq
    have hval := congrArg UInt8.toNat heq
    rw [toNat_ofNat hn] at hval
    exact absurd hval.symm (Nat.pos_iff_ne_zero.mp hpos)
  unfold CodePoint.utf8
  by_cases h₁ : c.val < 0x80
  · simp only [h₁, if_true, List.mem_singleton]
    exact hbyte _ (by omega) (by omega)
  by_cases h₂ : c.val < 0x800
  · simp only [h₁, h₂, if_true, if_false, List.mem_cons, List.not_mem_nil, or_false, not_or]
    exact ⟨hbyte _ (by omega) (by omega), hbyte _ (by omega) (by omega)⟩
  by_cases h₃ : c.val < 0x10000
  · simp only [h₁, h₂, h₃, if_true, if_false, List.mem_cons, List.not_mem_nil, or_false, not_or]
    exact ⟨hbyte _ (by omega) (by omega), hbyte _ (by omega) (by omega),
      hbyte _ (by omega) (by omega)⟩
  · simp only [h₁, h₂, h₃, if_false, List.mem_cons, List.not_mem_nil, or_false, not_or]
    exact ⟨hbyte _ (by omega) (by omega), hbyte _ (by omega) (by omega),
      hbyte _ (by omega) (by omega), hbyte _ (by omega) (by omega)⟩

/-- Canonical bytes hold no NUL. -/
theorem canonicalize_noNul {v : PyVal} {bytes : Bytes} (h : canonicalize v = .ok bytes) :
    0 ∉ bytes := by
  obtain ⟨text, htext, hbytes⟩ := canonicalize_eq_ok.mp h
  have hprintable := printable_iff.mp (serialize_printable v text htext)
  unfold encodeUtf8 at hbytes
  split at hbytes
  · cases hbytes
  · cases hbytes
    intro hzero
    obtain ⟨c, hc, hmem⟩ := List.mem_flatMap.mp hzero
    have hval := hprintable c hc
    exact utf8_ne_zero (show c.val ≠ 0 by omega) hmem

/-- The canonical bytes of an object begin with its brace. -/
theorem canonicalize_dict_head {members : Dict} {bytes : Bytes}
    (h : canonicalize (.dict members) = .ok bytes) : bytes.head? = some 0x7B := by
  obtain ⟨text, htext, hbytes⟩ := canonicalize_eq_ok.mp h
  rw [serialize_dict] at htext
  split at htext
  case isFalse => cases htext
  case isTrue =>
    obtain ⟨parts, -, htext⟩ := bind_eq_ok.mp htext
    cases htext
    unfold encodeUtf8 at hbytes
    split at hbytes
    · cases hbytes
    · cases hbytes
      rfl

end Jcs

end GmailGateway
