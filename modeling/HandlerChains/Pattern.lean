import HandlerChains.Pattern.Cutting
import HandlerChains.Text.Percent

/-!
# Route patterns

A pattern is a compiled template together with its text. `matchWhole?` cuts a whole route,
`matchStart?` the start of one; both give the captures of the preferred cutting, percent-decoded,
and the second gives the remainder as well.
-/

namespace HandlerChains

/-- Captured parameters, in the order in which their names were first captured. -/
abbrev Params := Assoc String

structure Pattern where
  source : String
  names : List String
  template : Pattern.Template
  deriving DecidableEq, Repr

namespace Pattern

def empty : Pattern where
  source := ""
  names := []
  template := .done

/-- Reads a pattern text, or says what is wrong with it and where. -/
def compile (source : String) : Except (Fault × Nat) Pattern :=
  let ts := tokens source
  match fault? ts with
  | some fault => .error fault
  | none => .ok
    { source
      names := ts.filterMap fun t => t.symbol.name?
      template := Template.ofTokens ts }

def captures (pieces : Pieces) : Params :=
  pieces.map fun (name, piece) => (name, String.ofList (Text.Percent.decodeChars piece))

/-- The captures when the whole route is cut. -/
def matchWhole? (p : Pattern) (route : String) : Option Params :=
  (p.template.search (fun rest => if rest.isEmpty then some ([], ()) else none)
    route.toList).map fun (pieces, _) => captures pieces

/-- The captures when some start of the route is cut, and the remainder. -/
def matchStart? (p : Pattern) (route : String) : Option (Params × String) :=
  (p.template.search (fun rest => some ([], rest)) route.toList).map fun (pieces, rest) =>
    (captures pieces, String.ofList rest)

end Pattern
end HandlerChains
