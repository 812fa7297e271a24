import HandlerChains.Innate.Filling
import HandlerChains.Innate.Item

/-!
# Calling what a name leads to

An action may stand for anything that can be called. A kind makes something of its own of a context
or refuses it, and a method takes the context as its argument; most of them cannot do anything with
one.
-/

namespace HandlerChains

/-- What a call with a context comes to: an action is called, or something is answered, or the call
fails, or what a keeper with some other things in it keeps at a place is used. -/
inductive Uptake where
  | action (f : Callable)
  | answer (truthy : Bool)
  | failure (f : Failure)
  | keeping (place : String) (others : Nat) (k : Keeping) (without : Uptake)

namespace Uptake

def refusal (text : String) : Uptake := failure (.badCall text)

def misfit (name : String) (definer : Nature) : String :=
  "descriptor '" ++ name ++ "' for '" ++ definer.typeName ++ "' objects doesn't apply to a '" ++
    Context.kindName ++ "' object"

/-- The text that an item is. Of other texts no more is known than that they have places for
nothing. -/
def textOf : ModuleItem → String
  | .target (.plain (.text s)) => s
  | _ => "-"

/-- A text after it is filled: whether anything is left of it. -/
def filled : Except Failure Bool → Uptake
  | .ok left => answer left
  | .error f => failure f

/-- How a text takes a call that maps its characters: it asks the context for the first one. -/
def mapped (s : String) : Uptake :=
  if s = "" then answer false
  else refusal ("'" ++ Context.kindName ++ "' object is not subscriptable")

/-- How a kind takes a call: it makes something, or refuses. -/
def ofType (kind : String) : Uptake :=
  let n := Nature.ofKind kind
  match n.making with
  | .answers b => answer b
  | .fails f => failure f
  | _ => refusal ("cannot create '" ++ n.typeName ++ "' instances")

def ofInnate (i : Innate) (owner : ModuleItem) (passedOn : Option Uptake) :
    Reaction → Option Uptake
  | .answers b => answer b
  | .fails f => failure f
  | .bare => some <| refusal <|
    if i.kind = Nature.operator.kind then "expected 0 arguments, got 1"
    else i.label ++ "() takes no arguments (1 given)"
  | .fillsPercent => filled (Filling.percent (textOf owner))
  | .fillsBraces byName => filled (Filling.braces byName (textOf owner))
  | .maps => mapped (textOf owner)
  | .passesOn => passedOn
  | .includes =>
    match owner with
    | .type kind => some (answer (kind == Nature.object.kind))
    | _ => none
  | .misfits =>
    match owner with
    | .innate o _ =>
      if o.definer.kind = Nature.object.kind then some (answer true)
      else some (refusal (misfit o.name o.definer))
    | _ => none
  | .foreign => some <| refusal <|
    if i.kind = Nature.freeOperator.kind then
      "descriptor '" ++ i.name ++ "' requires a '" ++ i.definer.typeName ++
        "' object but received a '" ++ Context.kindName ++ "'"
    else misfit i.name i.definer
  | .reads =>
    match owner with
    | .innate o _ =>
      match o.definer.freely o.name with
      | .fails f => failure f
      | _ => none
    | _ => none
  | .alone => some (refusal (i.label ++ "() takes 1 positional argument but 2 were given"))
  | .closed => none

/-- How something innate of a keeper takes a call, given how it does so without what is kept. -/
def withKept (i : Innate) (owner : ModuleItem) (uptake : Uptake) : Uptake :=
  match owner, i.definer.keeping.get? i.name with
  | .keeper place v, some k => keeping place (v.items?.getD []).length k uptake
  | _, _ => uptake

def ofItem? : ModuleItem → Option Uptake
  | .target (.callable f) => some (action f)
  | .type kind => some (ofType kind)
  | .innate i owner => do
    let uptake ← ofInnate i owner (ofItem? owner) (← i.reaction)
    return withKept i owner uptake
  | _ => none

end Uptake

/-- What a name resolves to: what it is called, and what a call of it with a context comes to. -/
structure Resolved where
  label : String
  uptake : Uptake

namespace Resolved

def ofCallable (f : Callable) : Resolved := ⟨f.label, .action f⟩

def ofItem? (item : ModuleItem) : Option Resolved := do
  let uptake ← Uptake.ofItem? item
  match item with
  | .target (.callable f) => return ⟨f.label, uptake⟩
  | .type kind => return ⟨kind, uptake⟩
  | .innate i _ => return ⟨i.label, uptake⟩
  | _ => none

end Resolved
end HandlerChains
