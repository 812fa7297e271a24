import HandlerChains.Script

/-!
# Marked methods

A decorator marks a method for registration. Its arguments are read when the class is declared: by
position first, then by name. What is null counts as not given; what has no parameter is an option
of the registration.
-/

namespace HandlerChains

/-- A mark as it is kept: what is registered, and with which arguments. -/
structure Marker where
  mark : Mark
  method : Option Value := none
  pattern : Option Value := none
  options : Assoc Value := []

namespace Mark

/-- The parameters that can be given by position. -/
def parameters : Mark → List String
  | route | shortcut _ => ["pattern"]
  | endpoint => ["method", "pattern"]
  | notFound | badMethod | callback | error => []

def reserved : Mark → List String
  | shortcut _ => ["kind", "method"]
  | _ => ["kind"]

end Mark

namespace Marking

/-- All arguments by name. -/
def bind (m : Marking) : Except Failure (Assoc Value) :=
  let parameters := m.mark.parameters
  let placed := parameters.zip m.arguments
  let given := placed ++ m.options
  if parameters.length < m.arguments.length then .error (.badCall "too many positional arguments")
  else if placed.any fun (name, _) => Assoc.has m.options name then
    .error (.badCall "multiple values for an argument")
  else if parameters.any fun name => !Assoc.has given name then
    .error (.badCall "a required argument is missing")
  else if m.mark.reserved.any fun name => Assoc.has m.options name then
    .error (.badCall "multiple values for an argument")
  else .ok given

/-- The marker of a decorator. -/
def marker (m : Marking) : Except Failure Marker := do
  let given := (← m.bind).filter fun (_, v) => match v with
    | .null => false
    | _ => true
  let rest (names : List String) := given.filter fun (name, _) => name ∉ names
  match m.mark with
  | .route =>
    return { mark := .route, pattern := Assoc.get? given "pattern", options := rest ["pattern"] }
  | .endpoint =>
    return { mark := .endpoint, method := Assoc.get? given "method"
             pattern := Assoc.get? given "pattern", options := rest ["method", "pattern"] }
  | .shortcut method =>
    return { mark := .endpoint, method := some (.text method)
             pattern := Assoc.get? given "pattern", options := rest ["pattern"] }
  | mark => return { mark, options := given }

end Marking
end HandlerChains
