import ScriptLink.Number.Binary64

/-!
# ScriptLink.Json.Value — JSON values

* A number is an integer or a binary64 number; the two never mix.
* An object keeps its members in a list. `Value.object` builds the form every reader of the library
  returns: keys in strictly increasing order of code points, the last of several members with one
  key winning. `Value.Sorted` is that form, at every depth.
* `Value.depth` counts nested arrays and objects.
-/

namespace ScriptLink

/-- A number of JSON text. -/
inductive Number where
  /-- A number without fraction and exponent. -/
  | int (i : Int)
  | real (x : Binary64)
  deriving DecidableEq, Repr, Inhabited

/-- A JSON value. -/
inductive Value where
  | null
  | bool (b : Bool)
  | num (n : Number)
  | str (s : String)
  | arr (items : List Value)
  | obj (members : List (String × Value))
  deriving Inhabited

namespace Number

/-- The integers that are written without fraction and exponent, from `-2^63` to `2^64 - 1`. -/
def Fits (i : Int) : Prop := -0x8000000000000000 ≤ i ∧ i < 0x10000000000000000

instance (i : Int) : Decidable (Fits i) := inferInstanceAs (Decidable (_ ∧ _))

/-- The number as a binary64 number, if it is not too large. -/
def toReal? : Number → Option Binary64
  | .int i => Binary64.ofInt? i
  | .real x => some x

end Number

namespace Value

def ofNat (n : Nat) : Value := .num (.int n)

def strings (texts : List String) : Value := .arr (texts.map .str)

/-! ## Members of objects -/

/-- Puts a member into a list of members in key order; it replaces one with the same key. -/
def insertMember (key : String) (v : Value) : List (String × Value) → List (String × Value)
  | [] => [(key, v)]
  | (k, w) :: rest =>
    if key < k then (key, v) :: (k, w) :: rest
    else if key = k then (key, v) :: rest
    else (k, w) :: insertMember key v rest

/-- The object with the given members; of several with one key the last counts. -/
def object (members : List (String × Value)) : Value :=
  .obj (members.foldl (fun ms m => insertMember m.1 m.2 ms) [])

/-- The value of the member with the given key; nothing for a value that is no object. -/
def get? (key : String) : Value → Option Value
  | .obj members => members.lookup key
  | _ => none

/-! ## Views -/

def asString? : Value → Option String
  | .str s => some s
  | _ => none

def asBool? : Value → Option Bool
  | .bool b => some b
  | _ => none

def asArray? : Value → Option (List Value)
  | .arr items => some items
  | _ => none

/-- An integer between zero and `2^64 - 1`; a number with a fraction is none. -/
def asWord? : Value → Option UInt64
  | .num (.int i) => if 0 ≤ i ∧ i < 0x10000000000000000 then some (UInt64.ofNat i.toNat) else none
  | _ => none

/-- The texts of an array that holds nothing else. -/
def asStrings? (v : Value) : Option (List String) :=
  v.asArray?.bind fun items => items.mapM asString?

/-- A value other than `null`. -/
def present? : Value → Option Value
  | .null => none
  | v => some v

/-! ## Shape -/

mutual

/-- How deep arrays and objects nest in a value. -/
def depth : Value → Nat
  | .arr items => depthOfItems items + 1
  | .obj members => depthOfMembers members + 1
  | _ => 0

def depthOfItems : List Value → Nat
  | [] => 0
  | v :: rest => max (depth v) (depthOfItems rest)

def depthOfMembers : List (String × Value) → Nat
  | [] => 0
  | (_, v) :: rest => max (depth v) (depthOfMembers rest)

end

mutual

/-- Every object, at every depth, has its keys in strictly increasing order. -/
def Sorted : Value → Prop
  | .arr items => SortedItems items
  | .obj members => members.Pairwise (fun a b => a.1 < b.1) ∧ SortedMembers members
  | _ => True

def SortedItems : List Value → Prop
  | [] => True
  | v :: rest => Sorted v ∧ SortedItems rest

def SortedMembers : List (String × Value) → Prop
  | [] => True
  | (_, v) :: rest => Sorted v ∧ SortedMembers rest

end

mutual

/-- Every number, at every depth, is an integer of 64 bits, signed or unsigned. -/
def Integral : Value → Prop
  | .num (.int i) => Number.Fits i
  | .num (.real _) => False
  | .arr items => IntegralItems items
  | .obj members => IntegralMembers members
  | _ => True

def IntegralItems : List Value → Prop
  | [] => True
  | v :: rest => Integral v ∧ IntegralItems rest

def IntegralMembers : List (String × Value) → Prop
  | [] => True
  | (_, v) :: rest => Integral v ∧ IntegralMembers rest

end

@[simp] theorem lookup_insertMember_self (key : String) (v : Value) (ms : List (String × Value)) :
    (insertMember key v ms).lookup key = some v := by
  induction ms with
  | nil => simp [insertMember]
  | cons m rest ih =>
    obtain ⟨k, w⟩ := m
    unfold insertMember
    split
    · simp
    · split
      · simp
      · rename_i h
        have hk : (key == k) = false := beq_eq_false_iff_ne.2 h
        simp [List.lookup_cons, hk, ih]

theorem lookup_insertMember_of_ne {other key : String} (h : other ≠ key) (v : Value)
    (ms : List (String × Value)) : (insertMember key v ms).lookup other = ms.lookup other := by
  have ho : (other == key) = false := beq_eq_false_iff_ne.2 h
  induction ms with
  | nil => simp [insertMember, List.lookup_cons, ho]
  | cons m rest ih =>
    obtain ⟨k, w⟩ := m
    unfold insertMember
    split
    · simp [List.lookup_cons, ho]
    · split
      · rename_i hk
        subst hk
        simp [List.lookup_cons, ho]
      · simp [List.lookup_cons, ih]

@[simp] theorem get?_null (key : String) : get? key .null = none := rfl

@[simp] theorem get?_obj (key : String) (members : List (String × Value)) :
    get? key (.obj members) = members.lookup key := rfl

end Value

end ScriptLink
