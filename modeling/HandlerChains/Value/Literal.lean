import HandlerChains.Value
import HandlerChains.Text.Quoted

/-!
# Values as text

How error texts and log lines show a value: quoted texts, bracketed lists and records, and numbers
with the digits they came with. A decimal number is positional while its first digit stands between
the fourth place after the point and the sixteenth before it. Inside a sentence a text stands
without quotes.
-/

namespace HandlerChains
namespace Value

def separated (items : List String) : String := ", ".intercalate items

/-- The exponent of a number in scientific notation: a sign and at least two digits. -/
def exponentText (e : Int) : String :=
  let digits := toString e.natAbs
  (if e < 0 then "e-" else "e+") ++ (if digits.length < 2 then "0" ++ digits else digits)

def significant (n : Nat) : List Char × Nat :=
  let digits := (toString n).toList
  let kept := (digits.reverse.dropWhile (· == '0')).reverse
  (kept, digits.length - kept.length)

def decimalDigits (n places : Nat) : String :=
  let (digits, zeros) := significant n
  let point : Int := digits.length + zeros - places
  if point ≤ -4 ∨ 16 < point then
    let tail := digits.drop 1
    String.ofList (digits.take 1 ++ (if tail.isEmpty then [] else '.' :: tail)) ++
      exponentText (point - 1)
  else if point ≤ 0 then
    "0." ++ String.ofList (List.replicate (-point).toNat '0' ++ digits)
  else
    let whole := digits.take point.toNat ++ List.replicate (point.toNat - digits.length) '0'
    let fraction := digits.drop point.toNat
    String.ofList (whole ++ '.' :: if fraction.isEmpty then ['0'] else fraction)

def decimalText (negative : Bool) (digits places : Nat) : String :=
  (if negative then "-" else "") ++ if digits = 0 then "0.0" else decimalDigits digits places

mutual

/-- A value as it is shown. -/
def literal : Value → String
  | null => "None"
  | bool true => "True"
  | bool false => "False"
  | int n => toString n
  | decimal negative digits places => decimalText negative digits places
  | text s => Text.quoted s
  | list items => "[" ++ separated (literals items) ++ "]"
  | record fields => "\x7b" ++ separated (fieldLiterals fields) ++ "\x7d"

def literals : List Value → List String
  | [] => []
  | v :: rest => literal v :: literals rest

def fieldLiterals : List (String × Value) → List String
  | [] => []
  | (k, v) :: rest => (Text.quoted k ++ ": " ++ literal v) :: fieldLiterals rest

end

def textsLiteral (items : List String) : String :=
  "[" ++ separated (items.map Text.quoted) ++ "]"

def shown : Value → String
  | text s => s
  | v => v.literal

end Value
end HandlerChains
