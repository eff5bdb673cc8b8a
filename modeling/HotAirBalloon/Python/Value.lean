import Mathlib.Tactic

/-!
# Python values

The dynamic values that cross the tool boundary: what `json.loads` can return, and
what `model_dump(mode="json")` returns. A `dict` is kept as its items in insertion
order; `Dict.set` is `d[k] = v`, which keeps the position of a key that is present and
appends one that is not.

Equality of values is Python's `==`: `True == 1 == 1.0`, a `dict` is compared without
regard to the order of its items, and a NaN is equal to nothing.
-/

namespace HotAirBalloon.Python

/-- The items of a `dict` with string keys, in insertion order. -/
abbrev Dict (α : Type) := List (String × α)

namespace Dict

variable {α : Type}

/-- `d.get(key)`, with `none` for an absent key. -/
def get? (d : Dict α) (key : String) : Option α := d.lookup key

/-- `key in d`. -/
def contains (d : Dict α) (key : String) : Bool := (d.get? key).isSome

/-- `d[key] = value`. -/
def set : Dict α → String → α → Dict α
  | [], key, value => [(key, value)]
  | (k, v) :: rest, key, value =>
    if k = key then (k, value) :: rest else (k, v) :: set rest key value

@[simp] theorem get?_nil (key : String) : get? ([] : Dict α) key = none := rfl

theorem get?_cons (k : String) (v : α) (rest : Dict α) (key : String) :
    get? ((k, v) :: rest) key = if key = k then some v else get? rest key := by
  unfold get?
  rw [List.lookup_cons]
  by_cases h : key = k
  · simp [h]
  · have hb : (key == k) = false := beq_false_of_ne h
    simp [h, hb]

@[simp] theorem get?_set_self (d : Dict α) (key : String) (value : α) :
    (d.set key value).get? key = some value := by
  induction d with
  | nil => simp [set, get?_cons]
  | cons item rest ih =>
    obtain ⟨k, v⟩ := item
    unfold set
    split
    · rename_i h
      simp [get?_cons, h]
    · rename_i h
      rw [get?_cons, if_neg (Ne.symm h), ih]

theorem get?_set_of_ne {key other : String} (hne : other ≠ key) (d : Dict α) (value : α) :
    (d.set key value).get? other = d.get? other := by
  induction d with
  | nil => simp [set, get?_cons, hne]
  | cons item rest ih =>
    obtain ⟨k, v⟩ := item
    unfold set
    split
    · rename_i h
      subst h
      rw [get?_cons, get?_cons, if_neg hne, if_neg hne]
    · rw [get?_cons, get?_cons, ih]

end Dict

/-- A Python `float`. A finite number is its exact rational value; only `-0.0`, which is
equal to `0.0` but printed differently, needs a case of its own. -/
inductive PyFloat where
  | finite (value : ℚ)
  | negZero
  | inf
  | negInf
  | nan
  deriving DecidableEq

/-- The number a finite float stands for. -/
def PyFloat.rat? : PyFloat → Option ℚ
  | .finite q => some q
  | .negZero => some 0
  | .inf | .negInf | .nan => none

/-- `x < q` for a float `x` and a finite bound `q`. -/
def PyFloat.ltRat (x : PyFloat) (q : ℚ) : Bool :=
  match x with
  | .finite v => decide (v < q)
  | .negZero => decide (0 < q)
  | .negInf => true
  | .inf | .nan => false

/-- A JSON-like Python value. -/
inductive Value where
  | none
  | bool (b : Bool)
  | int (i : Int)
  | float (x : PyFloat)
  | str (s : String)
  | list (items : List Value)
  | dict (items : List (String × Value))

namespace Value

instance : Inhabited Value := ⟨.none⟩

/-- `value is None`. -/
def isNone : Value → Bool
  | .none => true
  | _ => false

/-- A text or `None`. -/
def optionalStr : Option String → Value
  | Option.none => .none
  | some s => .str s

/-- The value as a `str`, when it is one. -/
def str? : Value → Option String
  | .str s => some s
  | _ => Option.none

/-- The value as an `int`, when it is one. -/
def int? : Value → Option Int
  | .int i => some i
  | _ => Option.none

theorem int?_int (i : Int) : (Value.int i).int? = some i := rfl

/-- The value as a number: `bool` is a subclass of `int`. -/
def number? : Value → Option ℚ
  | .bool b => some (if b then 1 else 0)
  | .int i => some i
  | .float x => x.rat?
  | _ => Option.none

mutual

/-- `a == b`. -/
def pyEq : Value → Value → Bool
  | .none, .none => true
  | .str s, .str t => s == t
  | .list xs, .list ys => pyEqList xs ys
  | .dict xs, .dict ys => xs.length == ys.length && pyEqDict xs ys
  | .float .inf, .float .inf => true
  | .float .negInf, .float .negInf => true
  | a, b =>
    match a.number?, b.number? with
    | some p, some q => p == q
    | _, _ => false

/-- Equality of lists, item by item. -/
def pyEqList : List Value → List Value → Bool
  | [], [] => true
  | x :: xs, y :: ys => pyEq x y && pyEqList xs ys
  | _, _ => false

/-- Every item of the first `dict` has an equal one under its key in the second. -/
def pyEqDict : List (String × Value) → List (String × Value) → Bool
  | [], _ => true
  | (k, x) :: xs, ys =>
    (match ys.lookup k with
      | some y => pyEq x y
      | Option.none => false) && pyEqDict xs ys

end

@[simp] theorem pyEq_str (s t : String) : pyEq (.str s) (.str t) = (s == t) := by
  simp [pyEq]

theorem pyEq_int (i j : Int) : pyEq (.int i) (.int j) = decide (i = j) := by
  simp [pyEq, number?, beq_eq_decide]

end Value

/-- A raised Python exception: the name of its class and its message. `isException` is
false for a `BaseException` that is not an `Exception`, such as `asyncio.CancelledError`,
which no `except Exception` clause catches. -/
structure PyError where
  kind : String
  message : String
  isException : Bool := true
  deriving DecidableEq

namespace PyError

def keyError (message : String) : PyError := ⟨"KeyError", message, true⟩
def permissionError (message : String) : PyError := ⟨"PermissionError", message, true⟩
def typeError (message : String) : PyError := ⟨"TypeError", message, true⟩
def valueError (message : String) : PyError := ⟨"ValueError", message, true⟩
def runtimeError (message : String) : PyError := ⟨"RuntimeError", message, true⟩

end PyError

example : Value.pyEq (.bool true) (.float (.finite 1)) = true := by decide

end HotAirBalloon.Python
