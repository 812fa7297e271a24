import HandlerChains.Failure
import HandlerChains.Text.Blank

/-!
# Base paths

A base path starts and ends with a slash. A route is what follows it in a request path; the base
path without its last slash has the empty route.
-/

namespace HandlerChains
namespace Site

def isSlash (c : Char) : Bool := c == '/'

/-- The path between two slashes; nothing but slashes is a single one. -/
def wrapPath (path : String) : String :=
  let inner := Text.trim isSlash path
  if inner = "" then "/" else "/" ++ inner ++ "/"

/-- A base path from any value. Everything empty is the root. -/
def basePathOf : Value → Except Failure String
  | .text s => .ok (wrapPath s)
  | v => if v.isTruthy then .error (.lacks v "strip") else .ok (wrapPath "")

def dropStart? : List Char → List Char → Option (List Char)
  | [], rest => some rest
  | _ :: _, [] => none
  | a :: start, b :: text => if a = b then dropStart? start text else none

theorem dropStart?_eq_some {start text rest : List Char} :
    dropStart? start text = some rest ↔ text = start ++ rest := by
  induction start generalizing text with
  | nil => simp [dropStart?, eq_comm]
  | cons a start ih =>
    cases text with
    | nil => simp [dropStart?]
    | cons b text => by_cases h : a = b <;> simp [dropStart?, h, ih, eq_comm]

/-- The route of a path below a base path, if it lies there. -/
def routeBelow? (base path : String) : Option String :=
  match dropStart? base.toList path.toList with
  | some rest => some (String.ofList rest)
  | none => if path = Text.trimEnd isSlash base ∧ path ≠ "" then some "" else none

end Site
end HandlerChains
