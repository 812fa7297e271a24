import HandlerChains.Action
import HandlerChains.Site.BasePath
import HandlerChains.Text.UpperCase

/-!
# Handlers

The kinds of handlers, and the checks that making one runs. Routers are referred to by number, so
that a handler is plain data; what handlers do to a context is in `HandlerChains.Dispatch`.
-/

namespace HandlerChains

/-- The number of a router in its world. -/
abbrev RouterRef := Nat

inductive Handler where
  | callback (a : Action)
  | always (a : Action)
  | badMethod (a : Action)
  | conditional (p : Predicate) (a : Action)
  | route (p : Pattern) (a : Action)
  | endpoint (method : String) (p : Pattern) (a : Action)
  | setNamespace (nameSpace : String)
  | mount (p : Pattern) (child : RouterRef)
  | configure (base : Option String)
  | router (r : RouterRef)
  | custom (kind result : Value)

instance : Inhabited Handler := ⟨.custom (.text "handler") .null⟩

/-- A handler argument: a handler, or a value that is none. -/
inductive HandlerArgument where
  | handler (h : Handler)
  | plain (v : Value)

namespace Handler

def child? : Handler → Option RouterRef
  | mount _ r | router r => some r
  | _ => none

def compilePattern : Value → Except Failure Pattern
  | .text s =>
    match Pattern.compile s with
    | .ok p => .ok p
    | .error (fault, offset) => .error (.badPattern s fault offset)
  | v => .error (.patternNotText v)

/-- The method of an endpoint. What is no text but counts as given cannot be stripped. -/
def methodOf : Value → Except Failure String
  | .text s =>
    let method := Text.strip s
    if method = "" then .error .blankMethod else .ok (Text.upper method)
  | v => if v.isTruthy then .error (.lacks v "strip") else .error .blankMethod

def nameSpaceOf : Value → Except Failure String
  | .text s => .ok (wrapNameSpace s)
  | v => .error (.lacks v "strip")

def predicateOf : PredicateSpec → Except Failure Predicate
  | .test p => .ok p
  | .plain v => .error (.predicateNotCallable v)

/-- An endpoint: its method is looked at before its action. -/
def makeEndpoint (method : Value) (p : Pattern) (target : Target) : Except Failure Handler := do
  let method ← methodOf method
  let a ← Action.ofTarget target
  return endpoint method p a

def makeConditional (p : PredicateSpec) (target : Target) : Except Failure Handler := do
  let p ← predicateOf p
  let a ← Action.ofTarget target
  return conditional p a

end Handler
end HandlerChains
