/-!
# Doubles

A number with a decimal point is a double: the one next to what was written. A double is written
with the fewest digits that read back as it. Everything here is exact arithmetic on whole numbers;
signs are kept by the callers.
-/

namespace HandlerChains

/-- The number `significand * 2 ^ exponent`. The significand of a normal double has 53 bits. -/
structure Double where
  significand : Nat
  exponent : Int
  deriving DecidableEq, Repr

namespace Double

/-- The whole number next to `n / d`. A half goes to the even neighbour. -/
def roundQuotient (n d : Nat) : Nat :=
  let q := n / d
  let twice := 2 * (n % d)
  if twice < d then q else if d < twice then q + 1 else q + q % 2

def scale (base n d : Nat) (e : Int) : Nat × Nat :=
  if 0 ≤ e then (n * base.pow e.toNat, d) else (n, d * base.pow (-e).toNat)

def leastExponent : Int := -1074

/-- The double next to `n / d`. -/
def ofQuotient (n d : Nat) : Double :=
  if n = 0 then ⟨0, 0⟩
  else
    let guess : Int := Nat.log2 n - Nat.log2 d - 53
    let (a, b) := scale 2 n d (-guess)
    let e := max leastExponent (if a / b < Nat.pow 2 53 then guess else guess + 1)
    let (a, b) := scale 2 n d (-e)
    let s := roundQuotient a b
    if s = Nat.pow 2 53 then ⟨Nat.pow 2 52, e + 1⟩ else ⟨s, e⟩

def ofDecimal (digits : Nat) (places : Int) : Double :=
  let (n, d) := scale 10 digits 1 (-places)
  ofQuotient n d

def quotient (x : Double) : Nat × Nat := scale 2 x.significand 1 x.exponent

/-- All digits of a double, and how many of them are places. -/
def expansion (x : Double) : Nat × Nat :=
  if 0 ≤ x.exponent then (x.significand * Nat.pow 2 x.exponent.toNat, 0)
  else (x.significand * Nat.pow 5 (-x.exponent).toNat, (-x.exponent).toNat)

/-- The digits that read back as a double, of the two candidates with a number of places. -/
def digitsWith? (x : Double) (places : Int) : Option Nat :=
  let (n, d) := x.quotient
  let (a, b) := scale 10 n d places
  let low := a / b
  let near := roundQuotient a b
  let far := if near = low then low + 1 else low
  if ofDecimal near places = x then some near
  else if ofDecimal far places = x then some far
  else none

/-- More places than any double needs, on either side of the point. -/
def mostPlaces : Nat := 330

/-- The first digits that read back, with more and more places. -/
def shortestFrom (x : Double) (places : Int) : (fuel : Nat) → Nat × Int
  | 0 => (0, 0)
  | fuel + 1 =>
    match x.digitsWith? places with
    | some digits => (digits, places)
    | none => shortestFrom x (places + 1) fuel

/-- The shortest digits of a double, and how many of them are places. -/
def shortest (x : Double) : Nat × Int :=
  if x.significand = 0 then (0, 0) else shortestFrom x (-mostPlaces) (2 * mostPlaces)

def decimal (x : Double) : Nat × Nat :=
  let (digits, places) := x.shortest
  if 0 ≤ places then (digits, places.toNat) else (digits * Nat.pow 10 (-places).toNat, 0)

end Double
end HandlerChains
