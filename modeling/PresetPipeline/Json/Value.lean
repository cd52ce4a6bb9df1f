import PresetPipeline.Collection.SortedMap

/-!
# JSON values

Numbers keep whether they are whole. The members of an object keep their order, which is the order
in which they are printed.

* `Json` — a value.
* `Json.same` — equality as a program compares values: `0.0` equals `-0.0`, `1` differs from `1.0`.
* `Json.ofFloat` — a double as a value; only finite doubles are numbers.
* `Json.member?` — the value of an object's member.
-/

set_option autoImplicit false

namespace PresetPipeline

/-- A number: whole, or a finite double. -/
inductive JsonNumber where
  | integer (value : Int)
  | real (value : Float)

inductive Json where
  | null
  | bool (value : Bool)
  | number (value : JsonNumber)
  | string (value : String)
  | array (items : List Json)
  | object (members : List (String × Json))

namespace Json

def ofInt (n : Int) : Json := .number (.integer n)

def ofNat (n : Nat) : Json := ofInt n

/-- A finite double is a number; any other double is null. -/
def ofFloat (x : Float) : Json := if x.isFinite then .number (.real x) else .null

def ofStrings (l : List String) : Json := .array (l.map .string)

def ofNats (l : List Nat) : Json := .array (l.map ofNat)

/-- An absent value is null. -/
def ofOption {α : Type} (encode : α → Json) : Option α → Json
  | none => .null
  | some a => encode a

/-- The members that are present, in the given order. -/
def ofMembers (members : List (Option (String × Json))) : Json := .object (members.filterMap id)

/-- A member that is always present. -/
def required (name : String) (value : Json) : Option (String × Json) := some (name, value)

/-- A member that is left out when its value is absent. -/
def omitted (name : String) (value : Option Json) : Option (String × Json) := value.map (name, ·)

/-- An object with sorted keys. -/
def ofMap (m : SortedMap String Json) : Json := .object m.entries

/-- The value of a member of an object. -/
def member? (j : Json) (name : String) : Option Json :=
  match j with
  | .object members => members.lookup name
  | _ => none

section Lemmas

variable {name key : String} {value : Json} {value? : Option Json} {ms : List (Option (String × Json))}

@[simp] theorem member?_ofMembers_nil : (ofMembers []).member? key = none := rfl

@[simp] theorem member?_ofMembers_required :
    (ofMembers (required name value :: ms)).member? key =
      if key = name then some value else (ofMembers ms).member? key := by
  show ((name, value) :: ms.filterMap id).lookup key = _
  rw [List.lookup_cons]
  by_cases h : key = name
  · rw [if_pos h, beq_iff_eq.2 h]
  · rw [if_neg h, beq_eq_false_iff_ne.2 h]
    rfl

/-- A member that is left out does not hide a later one of its name. -/
@[simp] theorem member?_ofMembers_omitted :
    (ofMembers (omitted name value? :: ms)).member? key =
      if key = name then value?.or ((ofMembers ms).member? key) else (ofMembers ms).member? key := by
  cases value? with
  | none => exact (ite_self _).symm
  | some value => exact member?_ofMembers_required

/-- An object with sorted keys has the members of its map. -/
@[simp] theorem member?_ofMap (m : SortedMap String Json) : (ofMap m).member? key = m.find? key :=
  lookup_eq_of_mem_iff fun _ => SortedMap.find?_eq_some_iff.symm

end Lemmas

end Json

/-- Whole numbers equal whole numbers and doubles equal doubles. -/
def JsonNumber.same : JsonNumber → JsonNumber → Bool
  | .integer m, .integer n => m == n
  | .real x, .real y => x == y
  | _, _ => false

mutual

/-- Equality of values; the members of an object are compared in order. -/
def Json.same : Json → Json → Bool
  | .null, .null => true
  | .bool a, .bool b => a == b
  | .number m, .number n => m.same n
  | .string s, .string t => s == t
  | .array xs, .array ys => Json.sameItems xs ys
  | .object ms, .object ns => Json.sameMembers ms ns
  | _, _ => false

def Json.sameItems : List Json → List Json → Bool
  | [], [] => true
  | x :: xs, y :: ys => x.same y && Json.sameItems xs ys
  | _, _ => false

def Json.sameMembers : List (String × Json) → List (String × Json) → Bool
  | [], [] => true
  | (k, v) :: ms, (l, w) :: ns => k == l && v.same w && Json.sameMembers ms ns
  | _, _ => false

end

instance : BEq Json := ⟨Json.same⟩

end PresetPipeline
