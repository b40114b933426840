import GmailGateway.Errors

/-!
# GmailGateway.Authz.DispatchRecord

The two-phase dispatch log (`authz/dispatch_record.py`): a `started` row before the send
commits and a `completed` row after it. The log itself only appends; `Paired` is what its
callers have to keep.
-/

namespace GmailGateway

open Python

/-- `DispatchStarted`. -/
structure DispatchStarted where
  decisionId : PyVal
  requestId : PyStr
  proposalId : PyStr
  actionDigest : PyStr
  monoDecisionReceivedNs : Int
  monoGmailCommitStartNs : Int

/-- `DispatchCompleted`: the started fields, the third offset and the terminal status. -/
structure DispatchCompleted extends DispatchStarted where
  monoResponseCompleteNs : Int
  terminalStatus : String

/-- A row, by its `phase`. -/
inductive DispatchRow
  | started (row : DispatchStarted)
  | completed (row : DispatchCompleted)

namespace DispatchRow

/-- The fields both phases have. -/
def base : DispatchRow → DispatchStarted
  | started row => row
  | completed row => row.toDispatchStarted

def isStarted : DispatchRow → Bool
  | started _ => true
  | completed _ => false

/-- The offsets of the row are in the order of its events. -/
def Ordered : DispatchRow → Prop
  | started row => row.monoDecisionReceivedNs ≤ row.monoGmailCommitStartNs
  | completed row => row.monoDecisionReceivedNs ≤ row.monoGmailCommitStartNs ∧
      row.monoGmailCommitStartNs ≤ row.monoResponseCompleteNs

end DispatchRow

/-- `find`: the rows bound to this proposal, request and payload. An empty field binds
nothing. -/
def DispatchRecordLog.find (log : List DispatchRow) (proposalId requestId actionDigest : PyStr) :
    List DispatchRow :=
  if proposalId = [] ∨ requestId = [] ∨ actionDigest = [] then []
  else log.filter fun row => row.base.proposalId = proposalId ∧ row.base.requestId = requestId ∧
    row.base.actionDigest = actionDigest

/-! ### Paired logs -/

/-- The rows of one phase for a proposal. -/
def phaseRows (log : List DispatchRow) (started : Bool) (proposalId : PyStr) : List DispatchRow :=
  log.filter fun row => row.isStarted = started ∧ row.base.proposalId = proposalId

/-- **The invariant of the log.** Each proposal has at most one row of each phase, and a
completed row repeats a started row before it. -/
structure Paired (log : List DispatchRow) : Prop where
  once : ∀ started proposalId, (phaseRows log started proposalId).length ≤ 1
  follows : ∀ l₁ row l₂, log = l₁ ++ .completed row :: l₂ → .started row.toDispatchStarted ∈ l₁

section Paired
variable {log : List DispatchRow}

theorem paired_nil : Paired [] := ⟨fun _ _ => Nat.zero_le _, fun l₁ row l₂ h => by simp at h⟩

theorem phaseRows_concat {row : DispatchRow} {started : Bool} {proposalId : PyStr} :
    phaseRows (log ++ [row]) started proposalId = phaseRows log started proposalId ++
      if row.isStarted = started ∧ row.base.proposalId = proposalId then [row] else [] := by
  simp only [phaseRows, List.filter_append, List.filter_cons, List.filter_nil, decide_eq_true_eq]

/-- Appending a row of a phase its proposal has none of. -/
theorem once_concat {row : DispatchRow}
    (h : ∀ started proposalId, (phaseRows log started proposalId).length ≤ 1)
    (hnew : phaseRows log row.isStarted row.base.proposalId = []) (started : Bool)
    (proposalId : PyStr) : (phaseRows (log ++ [row]) started proposalId).length ≤ 1 := by
  rw [phaseRows_concat]
  split
  · rename_i heq
    obtain ⟨rfl, rfl⟩ := heq
    rw [hnew]
    exact le_rfl
  · rw [List.append_nil]
    exact h started proposalId

theorem phaseRows_eq_nil {started : Bool} {proposalId : PyStr} :
    phaseRows log started proposalId = [] ↔
      ∀ row ∈ log, row.isStarted = started → row.base.proposalId ≠ proposalId := by
  simp [phaseRows, List.filter_eq_nil_iff]

/-- A proposal without a started row has no completed row. -/
theorem Paired.not_completed (h : Paired log) {proposalId : PyStr}
    (hnew : phaseRows log true proposalId = []) : phaseRows log false proposalId = [] := by
  rw [phaseRows_eq_nil] at hnew ⊢
  intro row hrow hphase hid
  cases row with
  | started row => cases hphase
  | completed row =>
      obtain ⟨l₁, l₂, rfl⟩ := List.append_of_mem hrow
      have hstarted := h.follows l₁ row l₂ rfl
      exact hnew _ (List.mem_append_left _ hstarted) rfl hid

theorem Paired.concat_started (h : Paired log) {row : DispatchStarted}
    (hnew : phaseRows log true row.proposalId = []) : Paired (log ++ [.started row]) := by
  refine ⟨once_concat h.once hnew, fun l₁ row' l₂ heq => ?_⟩
  -- the new row is no completed row, so the completed row is an old one
  rcases List.eq_nil_or_concat l₂ with rfl | ⟨l₂, last, rfl⟩
  · have := List.append_inj_right' heq rfl
    cases this
  · rw [List.concat_eq_append, ← List.cons_append, ← List.append_assoc] at heq
    obtain ⟨heq, -⟩ := List.append_inj' heq rfl
    exact h.follows l₁ row' l₂ heq

theorem Paired.concat_completed (h : Paired log) {row : DispatchCompleted}
    (hstarted : .started row.toDispatchStarted ∈ log)
    (hnew : phaseRows log false row.proposalId = []) : Paired (log ++ [.completed row]) := by
  refine ⟨once_concat h.once hnew, fun l₁ row' l₂ heq => ?_⟩
  rcases List.eq_nil_or_concat l₂ with rfl | ⟨l₂, last, rfl⟩
  · obtain ⟨rfl, hrow⟩ := List.append_inj' heq rfl
    cases hrow
    exact hstarted
  · rw [List.concat_eq_append, ← List.cons_append, ← List.append_assoc] at heq
    obtain ⟨heq, -⟩ := List.append_inj' heq rfl
    exact h.follows l₁ row' l₂ heq

end Paired

end GmailGateway
