import Ticketing.Base.Messages

/-!
# Values at run time

Library `Base`. The values of the source where it does not check their types, with its ways to
read them: a property of `undefined` or `null` cannot be read. A text that may be missing has its
own operator.
-/

namespace Ticketing

/-- A value. A number is an amount, in hundredths. -/
inductive Value where
  | undefined
  | null
  | bool (b : Bool)
  | num (n : Int)
  | str (s : String)
  | arr (items : List Value)
  | obj (fields : List (String × Value))

namespace Value

/-- `value === undefined || value === null`. -/
def nullish : Value → Bool
  | .undefined | .null => true
  | _ => false

/-- Whether a value counts as true. -/
def truthy : Value → Bool
  | .undefined | .null => false
  | .bool b => b
  | .num n => n ≠ 0
  | .str s => s ≠ ""
  | .arr _ | .obj _ => true

/-- `value?.name`. -/
def get? (value : Value) (name : String) : Value :=
  match value with
  | .obj fields => (fields.lookup name).getD .undefined
  | _ => .undefined

/-- `value.name`. -/
def get (value : Value) (name : String) : Except Exception Value :=
  match value with
  | .undefined =>
    .error (.failure ("Cannot read properties of undefined (reading '" ++ name ++ "')"))
  | .null => .error (.failure ("Cannot read properties of null (reading '" ++ name ++ "')"))
  | value => .ok (value.get? name)

/-- `value?.[0]`. -/
def first? : Value → Value
  | .arr (item :: _) => item
  | _ => .undefined

/-- `a ?? b`. -/
def coalesce (a b : Value) : Value := if a.nullish then b else a

/-- `a || b`. -/
def or (a b : Value) : Value := if a.truthy then a else b

/-- The items that `for (const item of value)` visits. -/
def items (value : Value) (name : String) : Except Exception (List Value) :=
  match value with
  | .arr items => .ok items
  | _ => .error (.failure (name ++ " is not iterable"))

/-- A text, or `null`. -/
def text : Option String → Value
  | some s => .str s
  | none => .null

/-- A property that an object lacks reads as `undefined`. -/
theorem get_obj (fields : List (String × Value)) (name : String) :
    (obj fields).get name = .ok ((fields.lookup name).getD .undefined) := rfl

end Value

/-- `a || b`: a text that is missing or empty gives way. -/
def orElse (a : Option String) (b : String) : String :=
  match a with
  | none => b
  | some a => if a = "" then b else a

end Ticketing
