import HandlerChains.Action

/-!
# Registries of actions

A registry is a table of callables. A callable is registered under a given name or its own, without
dots at the ends; registering another one under a name that is taken is refused.
-/

namespace HandlerChains

abbrev Registry := Assoc Callable

namespace Registry

/-- The name under which a callable is registered: a given one, or else its own. -/
def key (f : Callable) (name : Value) : Except Failure String :=
  if name.isTruthy then
    match name with
    | .text s => .ok (Text.trim isDot s)
    | v => .error (.lacks v "strip")
  else match f.ownName with
    | some own => .ok (Text.trim isDot own)
    | none => .error (.lacking f.label "__name__")

def register (t : Registry) (target : Target) (name : Value) : Except Failure Registry :=
  match target with
  | .callable f => do
    let name ← key f name
    match Assoc.get? t name with
    | some g =>
      if g.serial = f.serial then return Assoc.put t name f else .error (.actionNameTaken name)
    | none => return Assoc.put t name f
  | other => .error (.actionNotCallable other.literal)

def contains (t : Registry) (name : Value) : Except Failure Bool := do
  match ← Failure.keyOf name with
  | .text s => return Assoc.has t s
  | _ => return false

/-- The callable under a name. Names are texts, so that nothing else is the name of one. -/
def resolve (t : Registry) (name : Value) : Except Failure Callable := do
  match ← Failure.keyOf name with
  | .text s =>
    match Assoc.get? t s with
    | some f => return f
    | none => .error (.unknownAction name)
  | _ => .error (.unknownAction name)

end Registry
end HandlerChains
