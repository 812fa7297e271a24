import HandlerChains.Action
import HandlerChains.Innate.Parts

/-!
# What names lead through

A dotted name leads from a module to what was put into it, and on to what that has by itself. Of
things that only something else leads to, no more is known than their kind.
-/

namespace HandlerChains

/-- A method, or something else that a kind defines and that keeps its name: what it is called, its
kind, the name and the nature that define it, and how it takes a call, if it can be called. -/
structure Innate where
  label : String
  kind : String
  name : String
  definer : Nature
  reaction : Option Reaction

/-- What a module defines under a name, or what that leads to. In a loaded module no `function` is
left, and lists and records are a `keeper` with a place of their own; a loaded module is an
attribute of the one that it lies in. What is `innate` belongs to what was asked for it, and a
`thing` is something of a kind. -/
inductive ModuleItem where
  | target (t : Target)
  | function (id : String)
  | space (items : List (String × ModuleItem))
  | keeper (place : String) (v : Value)
  | module (name : String)
  | type (kind : String)
  | thing (kind : String)
  | innate (i : Innate) (owner : ModuleItem)

namespace Nature

def all : List Nature :=
  [type, function, module, text, int, bool, decimal, null, list, record, tuple, bytes, named,
    space, operator, routine, method, freeOperator, freeRoutine, getter, place, property, view, code,
    spec, traits]

/-- The nature of a kind. A kind that defines nothing known has what every thing has. -/
def ofKind (kind : String) : Nature :=
  (all.find? fun n => n.kind == kind).getD { object with kind, constructs := false }

/-- A nature and those that it stands on, the nearest one first. -/
def lineage (n : Nature) : List Nature :=
  if n.kind = object.kind then [object]
  else if n.base = object.kind then [n, object]
  else [n, ofKind n.base, object]

def find? (n : Nature) (name : String) : Option (Nature × Feature) :=
  n.lineage.findSome? fun d => (d.feature? name).map fun f => (d, f)

/-- What a method of a kind is called. Two functions go by a name of their own. -/
def methodLabel (definer : Nature) (name : String) : String :=
  if definer.kind = named.kind ∧ name ∈ ["__getstate__", "__setstate__"] then
    "_dataclass_" ++ String.ofList (name.toList.filter fun c => c != '_')
  else definer.kind ++ "." ++ name

/-- A method of a kind itself. The one that makes tables of characters belongs to nothing. -/
def sharedMethod (kind name : String) (definer : Nature) (r : Reaction) : ModuleItem :=
  .innate ⟨kind ++ "." ++ name, routine.kind, name, definer, some r⟩
    (if name = "maketrans" then .thing null.kind else .type kind)

/-- What makes things of a kind: that of the nearest nature with a way of its own. -/
def maker (n : Nature) : ModuleItem :=
  let definer := (n.lineage.find? Nature.constructs).getD object
  sharedMethod definer.kind "__new__" definer <| .fails <| .badCall <|
    definer.typeName ++ ".__new__(X): X is not a type object (" ++ Context.kindName ++ ")"

/-- What a feature is where a thing is asked for it. -/
def bind (owner : ModuleItem) (kind name asker : String) : Nature × Feature → ModuleItem
  | (d, .operator r) => .innate ⟨d.kind ++ "." ++ name, operator.kind, name, d, some r⟩ owner
  | (d, .routine r) => .innate ⟨asker ++ name, routine.kind, name, d, some r⟩ owner
  | (d, .shared r) => sharedMethod kind name d r
  | (d, .function r) => .innate ⟨methodLabel d name, method.kind, name, d, some r⟩ owner
  | (_, .getter kind) | (_, .place kind) | (_, .property kind) | (_, .constant kind) => .thing kind

/-- What a feature is where a kind is asked for it. -/
def unbound (kind name : String) : Nature × Feature → ModuleItem
  | (d, f) =>
    let free (innateKind : String) (r : Option Reaction) : ModuleItem :=
      .innate ⟨methodLabel d name, innateKind, name, d, r⟩ (.type d.kind)
    match f with
    | .operator _ => free freeOperator.kind (some (d.freely name))
    | .routine _ => free freeRoutine.kind (some (d.freely name))
    | .function _ => free function.kind (some (d.freely name))
    | .getter _ => free getter.kind none
    | .place _ => free place.kind none
    | .property _ => free property.kind none
    | .shared r => sharedMethod kind name d r
    | .constant kind => .thing kind

/-- What a kind has under a name: what it has as a kind, then what its things have, and then the
rest of what kinds have. -/
def ofType? (kind name : String) : Option ModuleItem :=
  let n := ofKind kind
  let asKind := (type.feature? name).map (Prod.mk type)
  let read (f : Feature) : Option ModuleItem :=
    if name = "__base__" then
      some (if kind = object.kind then .thing null.kind else .type n.base)
    else if name = "__doc__" then
      if n.about = getter.kind then (n.find? name).map (unbound kind name)
      else some (.thing n.about)
    else if name = "__text_signature__" then some (.thing n.signature)
    else some (bind (.type kind) type.kind name "" (type, f))
  if name = "__class__" then some (.type type.kind)
  else if name = "__annotations__" then
    if n.functions.isEmpty then none else some (.thing record.kind)
  else match asKind.filter fun found => found.2.isRead with
    | some (_, f) => read f
    | none =>
      if name = "__new__" then some n.maker
      else ((n.find? name).map (unbound kind name)).or
        (asKind.map (bind (.type kind) type.kind name (kind ++ ".")))

/-- What a thing of a kind has under a name, `put` being what was put into it. -/
def ofThing? (owner : ModuleItem) (kind name : String) (put : Option ModuleItem) :
    Option ModuleItem :=
  let n := ofKind kind
  let found := n.find? name
  let asker := if kind = module.kind then "" else kind ++ "."
  let bound := found.map (bind owner kind name asker)
  if name = "__class__" then some (.type kind)
  else if (found.map Prod.snd).any Feature.isRead then bound
  else if name = "__new__" then put.or (some n.maker)
  else put.or (((n.own.get? name).map .thing).or bound)

end Nature

namespace ModuleItem

/-- The kind of an item. What can only be called is of no known kind. -/
def kind? : ModuleItem → Option String
  | target (.callable f) => if f.ownName.isSome then some Nature.function.kind else none
  | target (.named _) => some Nature.named.kind
  | target (.plain v) => some v.kindName
  | function _ => none
  | keeper _ v => some v.kindName
  | space _ => some Nature.space.kind
  | module _ => some Nature.module.kind
  | type _ => some Nature.type.kind
  | thing kind => some kind
  | innate i _ => some i.kind

/-- Of what kind a part of something innate is where it differs from others of its kind. -/
def partKind? (i : Innate) (name : String) : Option String :=
  if !((Nature.ofKind i.kind).feature? name).any Feature.isRead then none
  else if name = "__text_signature__" then
    if rowHas i.definer.unsigned i.name then some Nature.null.kind else none
  else if name = "__doc__" then
    if rowHas i.definer.undescribed i.name then some Nature.null.kind
    else if rowHas i.definer.described i.name then some Nature.text.kind
    else none
  else if name = "__closure__" then
    if rowHas i.definer.enclosed i.name then none else some Nature.null.kind
  else if name = "__kwdefaults__" then
    if rowHas i.definer.lenient i.name then some Nature.record.kind else none
  else none

/-- What an innate item leads back to: what it belongs to, the kind that defines it, the function
that it is and the one that it was made from; and the parts of it that are like no other's. -/
def link? (name : String) : ModuleItem → Option ModuleItem
  | target (.named text) => if name = "name" then some (target (.plain (.text text))) else none
  | innate i owner =>
    if name = "__self__" then
      if i.kind ∈ [Nature.operator.kind, Nature.routine.kind, Nature.method.kind] then some owner
      else none
    else if name = "__objclass__" then
      if ((Nature.ofKind i.kind).feature? name).any Feature.isRead then some (type i.definer.kind)
      else none
    else if name = "__func__" ∧ i.kind = Nature.method.kind then
      some <| innate
        { i with kind := Nature.function.kind, reaction := some (i.definer.freely i.name) }
        (type i.definer.kind)
    else if name = "fget" ∧ i.kind = Nature.property.kind then
      some <| innate
        { i with
          label := i.definer.kind ++ "." ++ i.name, kind := Nature.function.kind,
          reaction := some (i.definer.freely i.name) }
        (type i.definer.kind)
    else if name = "__wrapped__" ∧ i.definer.kind = Nature.named.kind ∧ i.name = "__repr__" then
      some <| innate
        { i with
          label := "__create_fn__.<locals>.__repr__", name := "", kind := Nature.function.kind,
          reaction := some (i.definer.freely i.name) }
        (type i.definer.kind)
    else (partKind? i name).map thing
  | _ => none

def ownAttribute? (item : ModuleItem) (name : String) (put : Option ModuleItem) :
    Option ModuleItem :=
  match item with
  | type kind => Nature.ofType? kind name
  | item => (link? name item).or <|
    match item.kind? with
    | some kind => Nature.ofThing? item kind name put
    | none => put

/-- As `ownAttribute?`; what a method does not have its function has. -/
def attribute? (item : ModuleItem) (name : String) (put : Option ModuleItem) : Option ModuleItem :=
  (ownAttribute? item name put).or <|
    if item.kind? = some Nature.method.kind then
      (link? "__func__" item).bind fun f => ownAttribute? f name none
    else none

end ModuleItem
end HandlerChains
