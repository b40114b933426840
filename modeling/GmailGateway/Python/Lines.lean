import Mathlib.Data.List.Basic

/-!
# GmailGateway.Python.Lines

**Terminated records.** A text that is a sequence of records with a terminator after each
determines the records, if the terminator occurs in none; and a record `key ++ sep :: value`
determines both halves, if the separator does not occur in the key.
-/

namespace GmailGateway.Lines

variable {α : Type} [DecidableEq α]

/-- Each record, and the terminator after it. -/
def unlines (nl : α) (records : List (List α)) : List α := records.flatMap fun r => r ++ [nl]

/-- The records of a text, without what follows the last terminator. -/
def lines (nl : α) (text : List α) : List (List α) := (text.splitOn nl).dropLast

theorem lines_unlines {nl : α} {records : List (List α)} (h : ∀ r ∈ records, nl ∉ r) :
    lines nl (unlines nl records) = records := by
  induction records with
  | nil => simp [lines, unlines]
  | cons r records ih =>
      obtain ⟨hr, hrest⟩ := List.forall_mem_cons.mp h
      have hsplit : (unlines nl (r :: records)).splitOn nl =
          r :: (unlines nl records).splitOn nl := by
        rw [unlines, List.flatMap_cons, List.append_assoc, List.singleton_append]
        exact List.splitOn_append_cons_self_of_not_mem hr _
      rw [lines, hsplit, List.dropLast_cons_of_ne_nil (List.splitOn_ne_nil _ _)]
      exact congrArg (List.cons r) (ih hrest)

/-- What stands before the first separator, and what after it. -/
def cut (sep : α) (text : List α) : List α × List α :=
  (text.takeWhile (· ≠ sep), (text.dropWhile (· ≠ sep)).tail)

theorem cut_append {sep : α} {key : List α} (h : sep ∉ key) (value : List α) :
    cut sep (key ++ sep :: value) = (key, value) := by
  have hkey : ∀ c ∈ key, decide (c ≠ sep) = true := fun c hc =>
    decide_eq_true fun heq => h (heq ▸ hc)
  rw [cut, List.takeWhile_append_of_pos hkey, List.dropWhile_append_of_pos hkey]
  simp

/-- Parts without the separator can be read off what they are joined to. -/
theorem intercalate_inj {sep : α} {parts others : List (List α)} (hparts : ∀ p ∈ parts, sep ∉ p)
    (hothers : ∀ p ∈ others, sep ∉ p) (hne : parts ≠ []) (hne' : others ≠ [])
    (h : [sep].intercalate parts = [sep].intercalate others) : parts = others := by
  have hsplit := congrArg (List.splitOn sep) h
  rwa [List.splitOn_intercalate sep hparts hne, List.splitOn_intercalate sep hothers hne'] at hsplit

end GmailGateway.Lines
