import HandlerChains.Assoc
import HandlerChains.Double

/-!
# Values

Data that users hand in and that the library keeps without fixing its shape: what an action
returns, the names and metadata of handlers, the options of a plugin, the fields of a context.
`isTruthy` is the reading of a value as a yes or no, `key?` the reading as a name, and `same` tells
values apart.
-/

namespace HandlerChains

/-- `decimal negative digits places` is a number written with a decimal point: the double next to
`digits / 10 ^ places`, or the negative of it. -/
inductive Value where
  | null
  | bool (b : Bool)
  | int (n : Int)
  | decimal (negative : Bool) (digits places : Nat)
  | text (s : String)
  | list (items : List Value)
  | record (fields : List (String × Value))

/-- What tells names apart. The number `n / 10 ^ places` has as few places as it can. -/
inductive Key where
  | null
  | number (n : Int) (places : Nat)
  | text (s : String)
  deriving DecidableEq, Repr

namespace Key

def reduced (n : Int) : (places : Nat) → Key
  | 0 => number n 0
  | places + 1 => if n % 10 = 0 then reduced (n / 10) places else number n (places + 1)

/-- Null, zero and the empty text are no, as they are among values. -/
def isTruthy : Key → Bool
  | null => false
  | number n _ => n != 0
  | text s => s != ""

end Key

namespace Value

instance : Inhabited Value := ⟨null⟩

/-- Null, false, zero and everything empty are no; the rest is yes. -/
def isTruthy : Value → Bool
  | null => false
  | bool b => b
  | int n => n != 0
  | decimal _ digits places => (Double.ofDecimal digits places).significand != 0
  | text s => s != ""
  | list items => !items.isEmpty
  | record fields => !fields.isEmpty

/-- What a value consists of: the characters of a text, the items of a list, the names of a record.
Nothing else consists of anything. -/
def items? : Value → Option (List Value)
  | text s => some (s.toList.map fun c => text (String.singleton c))
  | list items => some items
  | record fields => some (fields.map fun (name, _) => text name)
  | null | bool _ | int _ | decimal .. => none

def kindName : Value → String
  | null => "NoneType"
  | bool _ => "bool"
  | int _ => "int"
  | decimal .. => "float"
  | text _ => "str"
  | list _ => "list"
  | record _ => "dict"

def keyOfDecimal (negative : Bool) (digits places : Nat) : Key :=
  let (n, places) := (Double.ofDecimal digits places).expansion
  .reduced (if negative then -n else n) places

/-- A value as a name: equal numbers are the same name, true is one and false is zero. Lists and
records can name nothing. -/
def key? : Value → Option Key
  | null => some .null
  | bool b => some (.number (if b then 1 else 0) 0)
  | int n => some (.number n 0)
  | decimal negative digits places => some (keyOfDecimal negative digits places)
  | text s => some (.text s)
  | list _ | record _ => none

/-- The key of a value that can name something. -/
def key (v : Value) : Key := v.key?.getD .null

mutual

/-- Whether two values are equal: scalars as names are, lists item by item, and records by what
they have under each name. -/
def same : Value → Value → Bool
  | list xs, list ys => sameItems xs ys
  | record xs, record ys => xs.length == ys.length && sameFields xs ys
  | list _, _ | record _, _ => false
  | v, w => v.key? == w.key?

def sameItems : List Value → List Value → Bool
  | [], [] => true
  | x :: xs, y :: ys => same x y && sameItems xs ys
  | _, _ => false

def sameFields : List (String × Value) → List (String × Value) → Bool
  | [], _ => true
  | (name, v) :: rest, fields =>
    ((Assoc.get? fields name).map (same v)).getD false && sameFields rest fields

end

def ofOption : Option String → Value
  | none => null
  | some s => text s

@[simp] theorem isTruthy_bool (b : Bool) : (bool b).isTruthy = b := rfl

@[simp] theorem key_text (s : String) : (text s).key = .text s := rfl

end Value
end HandlerChains
