import HandlerChains.Options.Rule
import HandlerChains.Options.Whole
import HandlerChains.Text.UpperCase

/-!
# Checking options

`flagOf` gives the flag that an accepted value stands for, and `problem?` what is wrong with a value
under a rule; `check` collects every refusal of a call at once, sorted by the written place of the
option.
-/

namespace HandlerChains
namespace Options

/-- The words for yes and no, in lower case. -/
def flagWords : List (String × Bool) :=
  [("0", false), ("off", false), ("f", false), ("false", false), ("n", false), ("no", false),
    ("1", true), ("on", true), ("t", true), ("true", true), ("y", true), ("yes", true)]

/-- The first whole number past those of 64 bits. -/
def wordLimit : Int := Int.ofNat (Nat.pow 2 63)

def fitsWord (n : Int) : Bool := -wordLimit ≤ n && n < wordLimit

/-- A number with a decimal point as a whole number that fits 64 bits. The least of these counts as
one that does not. -/
def wordOf (negative : Bool) (digits places : Nat) : Except Problem Int :=
  match Value.keyOfDecimal negative digits places with
  | .number n 0 => if fitsWord n ∧ n ≠ -wordLimit then .ok n else .error .outOfRange
  | _ => .error .fractional

/-- A whole number as a flag. What does not fit 64 bits is no flag at all. -/
def flagOfInt (n : Int) : Except Problem Bool :=
  if n = 0 then .ok false
  else if n = 1 then .ok true
  else .error (if fitsWord n then .unreadableFlag else .notFlag)

def flagOf : Value → Except Problem Bool
  | .bool b => .ok b
  | .int n => flagOfInt n
  | .decimal negative digits places =>
    match wordOf negative digits places with
    | .ok n => flagOfInt n
    | .error _ => .error .notFlag
  | .text s =>
    match flagWords.lookup (Text.lowerAscii s) with
    | some b => .ok b
    | none => .error .unreadableFlag
  | _ => .error .notFlag

def wholeProblem? (s : String) : Option Problem :=
  if startsTooLong s then some .outOfRange
  else if isWhole s then none
  else some .unreadableWhole

/-- What a rule accepts. -/
inductive Accepts where
  | flag | whole | text
  deriving DecidableEq, Repr

def problemOf {α : Type} : Except Problem α → Option Problem
  | .ok _ => none
  | .error p => some p

def Accepts.problem? : Accepts → Value → Option Problem
  | flag, v => problemOf (flagOf v)
  | whole, .bool _ => none
  | whole, .int _ => none
  | whole, .decimal negative digits places => problemOf (wordOf negative digits places)
  | whole, .text s => wholeProblem? s
  | whole, _ => some .notWhole
  | text, .text _ => none
  | text, _ => some .notText

/-- The rules of one callee: the options it knows. -/
abbrev Rules := Assoc Accepts

/-- The name of what options are given to. It is there already in every call. -/
def selfName : String := "self"

def Rules.problem? (rules : Rules) (name : String) (v : Value) : Option Problem :=
  if name = selfName then some .repeated
  else match Assoc.get? rules name with
  | some accepts => accepts.problem? v
  | none => some .unexpected

/-- A name as part of a written place: between double quotes, with every other character escaped. -/
def writtenChar (c : Char) : List Char :=
  let hex (width n : Nat) : List Char :=
    (List.range width).reverse.map fun i => Nat.digitChar (n / Nat.pow 16 i % 16)
  let n := c.toNat
  if c = '"' then ['\\', '"']
  else if c = '\\' then ['\\', '\\']
  else if c = '\n' then ['\\', 'n']
  else if c = '\r' then ['\\', 'r']
  else if c = '\t' then ['\\', 't']
  else if n = 8 then ['\\', 'b']
  else if n = 12 then ['\\', 'f']
  else if 0x20 ≤ n ∧ n < 0x7f then [c]
  else if n < 0x10000 then '\\' :: 'u' :: hex 4 n
  else
    let high := 0xd800 + (n - 0x10000) / 0x400
    let low := 0xdc00 + (n - 0x10000) % 0x400
    '\\' :: 'u' :: hex 4 high ++ '\\' :: 'u' :: hex 4 low

/-- The written place of a refusal, by which refusals are sorted. -/
def Refusal.place (r : Refusal) : String :=
  match r.option with
  | none => "[]"
  | some name => String.ofList ('[' :: '"' :: name.toList.flatMap writtenChar ++ ['"', ']'])

def Refusal.before (a b : Refusal) : Bool :=
  if a.place = b.place then a.problem.code ≤ b.problem.code else a.place ≤ b.place

def sortRefusals (rs : List Refusal) : List Refusal := rs.mergeSort Refusal.before

/-- All refusals of a call, sorted. -/
def Rules.check (rules : Rules) (given : Assoc Value) : List Refusal :=
  sortRefusals (given.filterMap fun (name, v) =>
    (rules.problem? name v).map fun p => ⟨some name, p⟩)

end Options
end HandlerChains
