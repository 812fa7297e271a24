import HandlerChains.Perform.Build
import HandlerChains.Router.Add

/-!
# Registration calls

What a registration call checks before a handler reaches its router, in order: the arguments of the
call, then the pattern, then, once an action is there, whatever the handler looks at. Without an
action the call gives a decorator, which registers the action that it is put on. Wherever a class
has something of its own in the place of a step, the call ends there; but a method in the place of
a verb is simply called, and what it does is up to it.
-/

namespace HandlerChains

namespace Purpose

def verb : Purpose → String
  | callback => "callback"
  | badMethod => "bad_method"
  | notFound => "not_found"
  | error => "error"
  | condition _ => "condition"
  | route _ => "route"
  | endpoint .. => "endpoint"
  | shortcut method _ => Text.lowerAscii method

/-- The verb that a call comes down to, if it is another one. -/
def innerVerb? : Purpose → Option String
  | shortcut .. => some "endpoint"
  | _ => none

/-- The parameters that stand before the action. They are no names for options. -/
def parameters : Purpose → List String
  | callback | badMethod | notFound | error => ["self"]
  | condition _ => ["self", "predicate"]
  | route _ => ["self", "pattern"]
  | endpoint .. | shortcut .. => ["self", "method", "pattern"]

def leading : Purpose → Nat
  | callback | badMethod | notFound | error => 0
  | condition _ | route _ | shortcut .. => 1
  | endpoint .. => 2

/-- What the first argument before the action is called where it is asked for what it does not
have. -/
def leadingKind : Purpose → String
  | condition (.plain v) | route (.plain v) | shortcut _ (.plain v) => v.kindName
  | route (.compiled _) | shortcut _ (.compiled _) => "RoutePattern"
  | _ => "function"

def entryName? : Purpose → Option String
  | notFound => some "not_found"
  | error => some "error"
  | _ => none

def isError : Purpose → Bool
  | error => true
  | _ => false

def pattern? : Purpose → Option PatternSpec
  | route p | endpoint _ p | shortcut _ p => some p
  | _ => none

/-- The handler for a target. Where the purpose has a pattern, it was compiled before. -/
def makeHandler (p : Pattern) (target : Target) : Purpose → Except Failure Handler
  | callback => return .callback (← Action.ofTarget target)
  | badMethod => return .badMethod (← Action.ofTarget target)
  | notFound | error => return .always (← Action.ofTarget target)
  | condition test => Handler.makeConditional test target
  | route _ => return .route p (← Action.ofTarget target)
  | endpoint method _ => Handler.makeEndpoint method p target
  | shortcut method _ => Handler.makeEndpoint (.text method) p target

end Purpose

namespace Exec

/-- The option under which an action can be handed in by name. -/
def actionOption : String := "action"

def expect (r : RouterRef) (name : String) (call : Call) : Exec Unit := do
  lift ((← router r).expect name call)

/-- Fails where a router has nothing under a name. -/
def reach (r : RouterRef) (name : String) : Exec Unit := do lift ((← router r).reach name)

/-- Fails if an option has the name of a parameter. -/
def expectOptions (parameters : List String) (options : Assoc Value) : Exec Unit :=
  if parameters.any (Assoc.has options) then fail (.badCall "multiple values for an argument")
  else pure ()

/-- Whether a handler is a router that passes for something of another class. -/
def passesForAnother : Handler → Exec Bool
  | .router inner => return (← router inner).isDisguised
  | _ => return false

/-- Adds a handler to a router. The option `name` names its entry; without one the name is derived
from the handler unless another one is given for that. -/
def addHandler (r : RouterRef) (h : HandlerArgument) (error : Bool) (options : Assoc Value)
    (derived : Option String) : Exec Unit := do
  expect r "_register" .named
  match h with
  | .handler h =>
    if ← passesForAnother h then fail (.badCall "a class is expected")
    let name := (Assoc.get? options "name").getD .null
    settle fun w => w.register r h error name derived (Assoc.erase options "name")
  | .plain v => fail (.notAHandler v)

def addAction (r : RouterRef) (purpose : Purpose) (pattern? : Option Pattern) (target : Target)
    (options : Assoc Value) : Exec Unit := do
  reach r "_register"
  let h ← lift (purpose.makeHandler (pattern?.getD Pattern.empty) target)
  addHandler r (.handler h) purpose.isError options purpose.entryName?

def verbCall (purpose : Purpose) (action? : Option Target) (options : Assoc Value) : Call :=
  let kind := if purpose.leading = 0 then (action?.map Target.kindName).getD "" else
    purpose.leadingKind
  .ofOptions kind (purpose.leading + action?.toList.length) options

/-- The call that a shortcut comes down to. -/
def innerCall (options : Assoc Value) : Call := if options.isEmpty then .several 3 else .named

/-- What calling a registration verb comes to before anything is registered: the router takes the
call, with the pattern if there is one, or a method of its class answered it. -/
inductive Opened where
  | taken (pattern? : Option Pattern)
  | answered (v : Value)

/-- Checks a call that a router takes itself, and compiles its pattern if it has one. An action that
is handed in leaves no option of that name. -/
def takeCall (r : RouterRef) (purpose : Purpose) (action? : Option Target)
    (compiled? : Option (Except Failure Pattern)) (options : Assoc Value) : Exec Opened := do
  expect r purpose.verb (verbCall purpose action? options)
  expectOptions (purpose.parameters ++ if action?.isSome then [actionOption] else []) options
  purpose.innerVerb?.forM fun verb => expect r verb (innerCall (Assoc.erase options actionOption))
  let pattern? ← compiled?.mapM fun p => lift p
  expect r "_add" .named
  return .taken pattern?

/-- What methods do that a class has in the place of a verb. They are handed what the verb is called
with, and can do anything. -/
class Answering where
  answer (r : RouterRef) (f : Callable) (purpose : Purpose) (action? : Option Target)
    (options : Assoc Value) : Exec Value

/-- Methods that do not say otherwise take nothing but a context, and read it first. -/
instance : Answering where
  answer _ f purpose action? options :=
    fail ((Override.method f).misuse (verbCall purpose action? options))

/-- Hands a call to what stands in the place of its verb. -/
def placeCall [Answering] (r : RouterRef) (purpose : Purpose) (action? : Option Target)
    (compiled? : Option (Except Failure Pattern)) (options : Assoc Value) : Exec Opened := do
  match (← router r).standIn? purpose.verb with
  | some f => return .answered (← Answering.answer r f purpose action? options)
  | none => takeCall r purpose action? compiled? options

/-- Calls a registration verb. -/
def openCall [Answering] (r : RouterRef) (purpose : Purpose) (action? : Option Target)
    (options : Assoc Value) : Exec Opened := do
  let compiled? ← purpose.pattern?.mapM fun p => lift (readPattern p)
  placeCall r purpose action? compiled? options

def callRouter (r : Router) (target : Target) : Failure :=
  match r.expect "__call__" (.alone target.kindName) with
  | .error f => f
  | .ok () => .badCall ("'" ++ r.className ++ "' object is not callable")

/-- Puts a registration call as a decorator on a target. Where the call has its action among the
options, it registers that one and gives the router, which is no decorator. -/
def decorate [Answering] (r : RouterRef) (purpose : Purpose) (target : Target)
    (options : Assoc Value) : Exec Reply := do
  match ← openCall r purpose none options with
  | .answered v => fail (.notCallable v)
  | .taken pattern? =>
    let others := Assoc.erase options actionOption
    match (Assoc.get? options actionOption).getD .null with
    | .null =>
      addAction r purpose pattern? target others
      return .returnedAction true
    | given =>
      addAction r purpose pattern? (.plain given) others
      fail (callRouter (← router r) target)

def registerAction [Answering] (r : RouterRef) (purpose : Purpose) (a : ActionSpec)
    (options : Assoc Value) (decorated : Bool) : Exec Reply := do
  let target ← buildTarget a
  if decorated then decorate r purpose target options
  else
    match ← openCall r purpose (some target) options, target with
    | .answered v, _ => return .value v
    | .taken _, .plain .null => return .value (.text "decorator")
    | .taken pattern?, _ =>
      addAction r purpose pattern? target options
      return .value (.text "self")

/-- Fails where the class of a router has its own way to take a handler. A method in that place
takes the handler for a context. -/
def expectTaking (r : RouterRef) (verb : String) (h : HandlerArgument) (options : Assoc Value) :
    Exec Unit := do
  match Assoc.get? (← router r).overrides verb, h, options with
  | some (.method _), .handler (.router inner), [] => fail (← router inner).noContext
  | _, .plain v, _ => expect r verb (.ofCounts v.kindName 1 options.length)
  | _, .handler _, _ => expect r verb (.ofCounts "Handler" 1 options.length)

def registerHandler (r : RouterRef) (error : Bool) (h : HandlerSpec) (options : Assoc Value) :
    Exec Unit := do
  let h ← buildHandler h
  expectTaking r (if error then "error_handler" else "handler") h options
  expectOptions ["self", "handler"] options
  addHandler r h error options none

def registerNamespace (r : RouterRef) (v : Value) (options : Assoc Value) : Exec Unit := do
  expect r "set_namespace" (.ofCounts v.kindName 1 options.length)
  if (Assoc.names options).any (· ≠ "name") then fail (.badCall "unexpected keyword argument")
  reach r "handler"
  let nameSpace ← lift (Handler.nameSpaceOf v)
  expect r "handler" .named
  addHandler r (.handler (.setNamespace nameSpace)) false options none

def registerMount (r : RouterRef) (p : PatternSpec) (child : ChildSpec) (options : Assoc Value) :
    Exec Unit := do
  let _ ← lift (readPattern p)
  expect r "mount" (.ofCounts "" 2 options.length)
  expectOptions ["self", "pattern", "router"] options
  reach r "handler"
  let h ← buildMount p child
  expectOptions ["handler"] options
  expect r "handler" .named
  addHandler r (.handler h) false options none

/-- Performs a registration call on a router. -/
def register [Answering] (r : RouterRef) : Registration → Exec Reply
  | .mk (.handler error h) options _ => returningSelf (registerHandler r error h options)
  | .mk (.setNamespace v) options _ => returningSelf (registerNamespace r v options)
  | .mk (.mount p child) options _ => returningSelf (registerMount r p child options)
  | .mk (.action purpose a) options decorated => registerAction r purpose a options decorated
where
  returningSelf (x : Exec Unit) : Exec Reply := do
    x
    return .value (.text "self")

end Exec
end HandlerChains
