import HandlerChains.Value

/-!
# Counting

The successor of a number, as counters need it. The successor of a number with a decimal point is
rounded to a double.
-/

namespace HandlerChains
namespace Value

def succDecimal (negative : Bool) (digits places : Nat) : Value :=
  let (n, d) := (Double.ofDecimal digits places).quotient
  let sum : Int := if negative then (d : Int) - n else d + n
  let (digits, places) := (Double.ofQuotient sum.natAbs d).decimal
  decimal (sum < 0) digits places

/-- One more than a number; `none` for what is not a number. True counts as one. -/
def succ? : Value → Option Value
  | bool b => some (int (if b then 2 else 1))
  | int n => some (int (n + 1))
  | decimal negative digits places => some (succDecimal negative digits places)
  | _ => none

end Value
end HandlerChains
