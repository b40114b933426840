import GmailGateway.Gateway.SealedTokenStore
import GmailGateway.Python.Dumps

/-!
# GmailGateway.Gateway.TokenRows

The row of the token store as the JSON object it is written as. `json.dumps` writes a high and a low
surrogate as two escapes, and `json.loads` reads the two as one character: what comes back of a row
is the row with the surrogates of its strings joined (`rowCodec_reread`).
-/

namespace GmailGateway

open Python

/-! ### Rows as objects -/

/-- `asdict(record)`. -/
def CommitRecord.toDict (c : CommitRecord) : Dict :=
  [(str "operation_id", .str c.operationId), (str "connection_id", .str c.connectionId),
    (str "result_id", .str c.resultId), (str "version", .int c.version),
    (str "generation", .int c.generation), (str "ack_pending", .bool c.ackPending),
    (str "invalidated", .bool c.invalidated)]

/-- The record that an object is; `none` for what the store never writes. -/
def CommitRecord.ofVal? : PyVal → Option CommitRecord
  | .dict [(k₁, .str operationId), (k₂, .str connectionId), (k₃, .str resultId),
      (k₄, .int version), (k₅, .int generation), (k₆, .bool ackPending), (k₇, .bool invalidated)] =>
      if [k₁, k₂, k₃, k₄, k₅, k₆, k₇] = [str "operation_id", str "connection_id", str "result_id",
          str "version", str "generation", str "ack_pending", str "invalidated"] then
        some { operationId, connectionId, resultId, version, generation, ackPending, invalidated }
      else none
  | _ => none

/-- The commit under its key, or `None`. -/
def commitVal : Option CommitRecord → PyVal
  | some c => .dict c.toDict
  | none => .none

/-- The object that a row is, its defaults written out. -/
def Row.toDict (r : Row) : Dict :=
  [(str "sealed", r.sealed), (str "commit", commitVal r.commit),
    (str "invalidated_ops", .list (r.invalidatedOps.map .str)), (str "barrier", .int r.barrier),
    (str "last_generation", .int r.lastGeneration)]

/-- The strings of a list; `none` where one is not a string. -/
def strings? : List PyVal → Option (List PyStr)
  | [] => some []
  | .str s :: xs => (strings? xs).map (s :: ·)
  | _ :: _ => none

/-- The row that an object is; `none` for what the store never writes. -/
def Row.ofVal? : PyVal → Option Row
  | .dict [(k₁, sealed), (k₂, commit), (k₃, .list ops), (k₄, .int barrier),
      (k₅, .int lastGeneration)] =>
      if [k₁, k₂, k₃, k₄, k₅] = [str "sealed", str "commit", str "invalidated_ops", str "barrier",
          str "last_generation"] then do
        let invalidatedOps ← strings? ops
        match commit with
        | .none => some { sealed, commit := none, invalidatedOps, barrier, lastGeneration }
        | commit => do
            let record ← CommitRecord.ofVal? commit
            some { sealed, commit := some record, invalidatedOps, barrier, lastGeneration }
      else none
  | _ => none

@[simp] theorem CommitRecord.ofVal?_toDict (c : CommitRecord) : ofVal? (.dict c.toDict) = some c := by
  simp [toDict, ofVal?]

@[simp] theorem strings?_map_str (ops : List PyStr) : strings? (ops.map .str) = some ops := by
  induction ops with
  | nil => rfl
  | cons op ops ih => simp [strings?, ih]

@[simp] theorem Row.ofVal?_toDict (r : Row) : ofVal? (.dict r.toDict) = some r := by
  obtain ⟨sealed, commit, invalidatedOps, barrier, lastGeneration⟩ := r
  cases commit with
  | none => simp [toDict, ofVal?, commitVal]
  | some c => simp [toDict, ofVal?, commitVal]

/-! ### Rows as text -/

/-- `json.dumps` and `json.loads` at the rows of the token store. -/
def rowCodec (toFloat : PyStr → PyFloat) (floatRepr : PyFloat → PyStr) : JsonCodec Row PyStr where
  dumps row := Json.dumps floatRepr (.dict row.toDict)
  loads text := do
    let v ← Json.loads toFloat text
    match Row.ofVal? v with
    | some row => pure row
    | none => throw .other

/-- What is read back of a record. -/
def CommitRecord.reread (c : CommitRecord) : CommitRecord where
  operationId := Json.joinSurrogates c.operationId
  connectionId := Json.joinSurrogates c.connectionId
  resultId := Json.joinSurrogates c.resultId
  version := c.version
  generation := c.generation
  ackPending := c.ackPending
  invalidated := c.invalidated

/-- What is read back of a row. -/
def Row.reread (r : Row) : Row where
  sealed := Json.reread r.sealed
  commit := r.commit.map CommitRecord.reread
  invalidatedOps := r.invalidatedOps.map Json.joinSurrogates
  barrier := r.barrier
  lastGeneration := r.lastGeneration

theorem CommitRecord.reread_toDict (c : CommitRecord) :
    Json.reread (.dict c.toDict) = .dict c.reread.toDict := by
  rw [Json.reread_dict (of_decide_eq_true rfl) (by rfl)]
  rfl

theorem Row.reread_toDict (r : Row) : Json.reread (.dict r.toDict) = .dict r.reread.toDict := by
  have hcommit : Json.reread (commitVal r.commit) = commitVal r.reread.commit := by
    rw [Row.reread]
    cases r.commit with
    | none => rfl
    | some c => exact c.reread_toDict
  have hops : Json.reread (.list (r.invalidatedOps.map .str)) =
      .list (r.reread.invalidatedOps.map .str) := by
    simp only [Json.reread, Row.reread, PyVal.rebuild_list, List.map_map]
    rfl
  rw [Json.reread_dict (of_decide_eq_true rfl) (by rfl)]
  simp only [Row.toDict, List.map_cons, List.map_nil, hcommit, hops]
  rfl

theorem Row.floatFree {r : Row} (hsealed : Json.floatFree r.sealed = true) :
    Json.floatFree (.dict r.toDict) = true := by
  have hcommit : Json.floatFree (commitVal r.commit) = true := by
    cases r.commit <;> rfl
  unfold Json.floatFree at *
  rw [PyVal.every_dict]
  refine ⟨rfl, fun m hm => ?_⟩
  simp only [toDict, List.mem_cons, List.not_mem_nil, or_false] at hm
  rcases hm with rfl | rfl | rfl | rfl | rfl
  · exact hsealed
  · exact hcommit
  · exact PyVal.every_list.mpr ⟨rfl, by simp [PyVal.every]⟩
  · rfl
  · rfl

section
variable {toFloat : PyStr → PyFloat} {floatRepr : PyFloat → PyStr}

/-- JSON does not raise what the store does. -/
theorem rowCodec_dumps_error {r : Row} {e : Exc}
    (h : (rowCodec toFloat floatRepr).dumps r = .error e) : ¬ e.IsRefusal := by
  rw [Json.dumps_error h]
  exact nofun

theorem rowCodec_loads_error {text : PyStr} {e : Exc}
    (h : (rowCodec toFloat floatRepr).loads text = .error e) : ¬ e.IsRefusal := by
  rcases bind_eq_error.mp h with hloads | ⟨v, -, hrow⟩
  · rw [Json.loads_error hloads]
    exact nofun
  · split at hrow
    · cases hrow
    · cases hrow
      exact nofun

/-- **Rows read back.** A row that was written comes back with the surrogates of its strings
joined. -/
theorem rowCodec_reread {r : Row} {text : PyStr} (hsealed : Json.floatFree r.sealed = true)
    (h : (rowCodec toFloat floatRepr).dumps r = .ok text) :
    (rowCodec toFloat floatRepr).loads text = .ok r.reread := by
  have hloads : Json.loads toFloat text = .ok (Json.reread (.dict r.toDict)) :=
    Json.loads_dumps (Row.floatFree hsealed) h
  rw [Row.reread_toDict] at hloads
  simp only [rowCodec, hloads, bind, Except.bind, Row.ofVal?_toDict]
  rfl

end

end GmailGateway
