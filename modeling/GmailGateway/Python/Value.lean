import GmailGateway.Python.Text

/-!
# GmailGateway.Python.Value

**The values a JSON parser can produce.** Everything that reaches the gateway from
outside (a synced head, a grant envelope, a decision) is such a value before the
source has checked anything about it, so the model keeps it untyped and gives
Python's meaning to the operations the source applies to it.
-/

namespace GmailGateway.Python

/-- A Python `float`. Finite doubles are kept as the rational they denote, which
is all that comparison needs. -/
inductive PyFloat
  | finite (q : Rat)
  | inf (negative : Bool)
  | nan
  deriving DecidableEq

/-- A value `json.loads` can return. Object members are kept in insertion order. -/
inductive PyVal
  | none
  | bool (b : Bool)
  | int (i : Int)
  | float (f : PyFloat)
  | str (s : PyStr)
  | list (xs : List PyVal)
  | dict (members : List (PyStr × PyVal))

/-- Induction on a value: below a list are its items, below a dict the values of its members. -/
@[elab_as_elim, induction_eliminator]
theorem PyVal.nested {motive : PyVal → Prop} (none : motive .none) (bool : ∀ b, motive (.bool b))
    (int : ∀ i, motive (.int i)) (float : ∀ f, motive (.float f)) (str : ∀ s, motive (.str s))
    (list : ∀ xs, (∀ x ∈ xs, motive x) → motive (.list xs))
    (dict : ∀ members : List (PyStr × PyVal), (∀ m ∈ members, motive m.2) →
      motive (.dict members)) (v : PyVal) : motive v :=
  match v with
  | .none => none
  | .bool b => bool b
  | .int i => int i
  | .float f => float f
  | .str s => str s
  | .list xs => list xs fun x _ => PyVal.nested none bool int float str list dict x
  | .dict members => dict members fun m hm =>
      have hlt : sizeOf m.2 < 1 + sizeOf members := by
        have hmem := List.sizeOf_lt_of_mem hm
        have hpair : sizeOf m = 1 + sizeOf m.1 + sizeOf m.2 := by cases m; rfl
        omega
      PyVal.nested none bool int float str list dict m.2
termination_by sizeOf v

/-- The items of a dict, in insertion order. -/
abbrev Dict := List (PyStr × PyVal)

/-- `d.get(key)`, without a default. -/
def Dict.get? (d : Dict) (key : PyStr) : Option PyVal := d.lookup key

/-- `d.get(key)`: an absent key reads `None`. -/
def Dict.get (d : Dict) (key : PyStr) : PyVal := (d.get? key).getD .none

/-- `key in d`. -/
def Dict.contains (d : Dict) (key : PyStr) : Bool := d.any (·.1 = key)

/-- `set(d) - allowed`, as the keys outside `allowed`. -/
def Dict.unknownKeys (d : Dict) (allowed : List PyStr) : List PyStr :=
  (d.map (·.1)).filter (· ∉ allowed)

/-- `set(d) == keys`. -/
def Dict.hasExactly (d : Dict) (keys : List PyStr) : Bool :=
  (d.unknownKeys keys).isEmpty && keys.all d.contains

namespace PyVal

/-- The number a value is, where Python's `==` and `<=` treat it as one: a `bool`
is an `int`. -/
def number? : PyVal → Option PyFloat
  | .bool b => some (.finite (if b then 1 else 0))
  | .int i => some (.finite i)
  | .float f => some f
  | _ => Option.none

/-- `bool(v)`. -/
def truthy : PyVal → Bool
  | .none => false
  | .bool b => b
  | .int i => i ≠ 0
  | .float f => f ≠ .finite 0
  | .str s => !s.isEmpty
  | .list xs => !xs.isEmpty
  | .dict members => !members.isEmpty

/-- `v == i` for an integer `i`. -/
def eqInt (v : PyVal) (i : Int) : Bool := v.number? = some (.finite i)

/-- `v == s` for a string `s`. -/
def eqStr : PyVal → PyStr → Bool
  | .str t, s => t = s
  | _, _ => false

/-- `i <= v`, or `none` where Python raises `TypeError`. -/
def geInt (v : PyVal) (i : Int) : Option Bool :=
  v.number?.map fun
    | .finite q => decide ((i : Rat) ≤ q)
    | .inf negative => !negative
    | .nan => false

/-- `v <= i`, or `none` where Python raises `TypeError`. -/
def leInt (v : PyVal) (i : Int) : Option Bool :=
  v.number?.map fun
    | .finite q => decide (q ≤ (i : Rat))
    | .inf negative => negative
    | .nan => false

/-- `v is None`. -/
def isNone : PyVal → Bool
  | .none => true
  | _ => false

/-- `v == w` of numbers: a NaN equals nothing. -/
def numberEq : Option PyFloat → Option PyFloat → Bool
  | some (.finite q), some (.finite r) => q = r
  | some (.inf a), some (.inf b) => a = b
  | _, _ => false

mutual

/-- `v == w`: numbers by value, objects as maps. -/
def pyEq : PyVal → PyVal → Bool
  | .none, w => w.isNone
  | .str s, w => w.eqStr s
  | .list xs, .list ys => pyEqItems xs ys
  | .dict members, .dict others =>
      members.length = others.length && pyEqMembers members others
  | .list _, _ | .dict _, _ => false
  | v, w => numberEq v.number? w.number?

/-- Equal item by item. -/
def pyEqItems : List PyVal → List PyVal → Bool
  | [], ys => ys.isEmpty
  | _ :: _, [] => false
  | x :: xs, y :: ys => pyEq x y && pyEqItems xs ys

/-- Equal key by key. -/
def pyEqMembers : List (PyStr × PyVal) → Dict → Bool
  | [], _ => true
  | (key, v) :: members, others =>
      (match others.get? key with
        | some w => pyEq v w
        | Option.none => false) && pyEqMembers members others

end

/-- What a hashable value is to a dict or a set: equal keys are one key. -/
inductive HashKey
  | none
  | number (f : PyFloat)
  | str (s : PyStr)
  deriving DecidableEq

/-- The key of a value, or `none` where hashing it raises `TypeError` (a list or a
dict). -/
def hashKey : PyVal → Option HashKey
  | .none => some .none
  | .str s => some (.str s)
  | .list _ | .dict _ => Option.none
  | v => v.number?.map .number

@[simp] theorem eqStr_iff {v : PyVal} {s : PyStr} : v.eqStr s = true ↔ v = .str s := by
  cases v <;> simp [eqStr]

@[simp] theorem hashKey_str (s : PyStr) : (PyVal.str s).hashKey = some (.str s) := rfl

end PyVal

/-! ### Equality of values -/

mutual

/-- Equality as values of the model: a `bool` is no `int`, and the order of members counts. -/
def PyVal.same : PyVal → PyVal → Bool
  | .none, .none => true
  | .bool b, .bool b' => b = b'
  | .int i, .int i' => i = i'
  | .float f, .float f' => f = f'
  | .str s, .str s' => s = s'
  | .list xs, .list xs' => PyVal.sameItems xs xs'
  | .dict members, .dict members' => PyVal.sameMembers members members'
  | _, _ => false
termination_by structural v => v

def PyVal.sameItems : List PyVal → List PyVal → Bool
  | [], [] => true
  | x :: xs, x' :: xs' => x.same x' && PyVal.sameItems xs xs'
  | _, _ => false
termination_by structural xs => xs

def PyVal.sameMember : PyStr × PyVal → PyStr × PyVal → Bool
  | (k, v), (k', v') => decide (k = k') && v.same v'
termination_by structural m => m

def PyVal.sameMembers : List (PyStr × PyVal) → List (PyStr × PyVal) → Bool
  | [], [] => true
  | m :: ms, m' :: ms' => PyVal.sameMember m m' && PyVal.sameMembers ms ms'
  | _, _ => false
termination_by structural ms => ms

end

theorem PyVal.sameItems_iff {xs xs' : List PyVal}
    (ih : ∀ x ∈ xs, ∀ x', x.same x' = true ↔ x = x') :
    PyVal.sameItems xs xs' = true ↔ xs = xs' := by
  induction xs generalizing xs' with
  | nil => cases xs' <;> simp [PyVal.sameItems]
  | cons x xs ihxs =>
      cases xs' with
      | nil => simp [PyVal.sameItems]
      | cons x' xs' =>
          rw [PyVal.sameItems, Bool.and_eq_true, ih x List.mem_cons_self,
            ihxs fun y hy => ih y (List.mem_cons_of_mem _ hy), List.cons.injEq]

theorem PyVal.sameMembers_iff {ms ms' : List (PyStr × PyVal)}
    (ih : ∀ m ∈ ms, ∀ v', m.2.same v' = true ↔ m.2 = v') :
    PyVal.sameMembers ms ms' = true ↔ ms = ms' := by
  induction ms generalizing ms' with
  | nil => cases ms' <;> simp [PyVal.sameMembers]
  | cons m ms ihms =>
      cases ms' with
      | nil => simp [PyVal.sameMembers]
      | cons m' ms' =>
          obtain ⟨k, v⟩ := m
          obtain ⟨k', v'⟩ := m'
          rw [PyVal.sameMembers, Bool.and_eq_true, PyVal.sameMember, Bool.and_eq_true,
            ih (k, v) List.mem_cons_self, ihms fun y hy => ih y (List.mem_cons_of_mem _ hy),
            List.cons.injEq, Prod.mk.injEq, decide_eq_true_iff]

theorem PyVal.same_iff {v w : PyVal} : v.same w = true ↔ v = w := by
  induction v generalizing w with
  | list xs ih => cases w <;> simp [PyVal.same, PyVal.sameItems_iff fun x hx _ => ih x hx]
  | dict members ih => cases w <;> simp [PyVal.same, PyVal.sameMembers_iff fun m hm _ => ih m hm]
  | _ => cases w <;> simp [PyVal.same]

instance : DecidableEq PyVal := fun _ _ => decidable_of_iff _ PyVal.same_iff

end GmailGateway.Python
