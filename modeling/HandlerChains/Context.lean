import HandlerChains.Declared.Library
import HandlerChains.Handler
import HandlerChains.Site.Config

/-!
# Dispatch contexts

The record that one dispatch threads through handlers and actions. The parameters are absent until
something is captured; the route is the part of the path that is still to be matched. A field may
hold any value, and what needs a text of it fails where it is none; null is a field that is not set.
-/

namespace HandlerChains

abbrev ContextRef := Nat

/-- The configuration that a context carries. A value is none that has a base path. -/
inductive Config where
  | site (c : SiteConfig)
  | object (attributes : Assoc Value)
  | plain (v : Value)

/-- What turns names into actions: the modules of the world, a registry or a table. A value cannot.
-/
inductive Resolver where
  | modules
  | registry (r : Nat)
  | table (rows : Assoc Target)
  | plain (v : Value)

/-- What actions write to. `replaced` is what a dispatch was handed to write to, as it was when
something else was put in its place. -/
structure Response where
  status : Nat := 200
  body : Value := .list []
  replaced : Option Value := none

namespace Response

/-- What was written to the response that a dispatch was handed. -/
def delivered (r : Response) : Value := r.replaced.getD r.body

def replace (r : Response) (v : Value) : Response :=
  { r with body := v, replaced := some r.delivered }

/-- Appends to the body, which has to be a list. -/
def write (r : Response) (v : Value) : Except Failure Response :=
  match r.body with
  | .list items => .ok { r with body := .list (items ++ [v]) }
  | body => .error (.lacks body "append")

end Response

/-- The value of a field, as far as a report can show it. -/
inductive FieldValue where
  | value (v : Value)
  | failure (f : Failure)
  | object

structure Context where
  request : Option FieldValue := none
  response : Response := {}
  config : Option Config := none
  path : Value := .null
  method : Value := .null
  route : Value := .null
  parameters : Option (Assoc Value) := none
  methods : Value := .list []
  nameSpace : Value := .null
  failure : Option Failure := none
  resolver : Resolver := .modules

instance : Inhabited Context := ⟨{}⟩

def FieldValue.ofValue? : Value → Option FieldValue
  | .null => none
  | v => some (.value v)

def Params.values (ps : Params) : Assoc Value := ps.map fun (name, s) => (name, .text s)

namespace Context

def kindName : String := "DispatchContext"

/-- What a context has besides its fields. Nothing can be put in the place of these. -/
def fixedNames : List String :=
  ["from_request", "require", "add_available_method", "merge_parameters", "__slots__",
    "__annotations__", "__match_args__", "__dataclass_fields__", "__dataclass_params__"] ++
    Library.objectNames

/-- The name of a place that contexts seem to have. -/
def strangeName : String := "__weakref__"

def refusal (name : String) (v : Value) : Failure :=
  if name = "__class__" then
    .badCall ("__class__ must be set to a class, not '" ++ v.kindName ++ "' object")
  else if name = strangeName then .strangePlace name kindName
  else if name ∈ fixedNames then
    .noAttribute ("'" ++ kindName ++ "' object attribute '" ++ name ++ "' is read-only")
  else .lacking kindName name

def field? (c : Context) : Field → Except Failure (Option FieldValue)
  | .request => .ok c.request
  | .response => .ok (FieldValue.ofValue? c.response.body)
  | .config => .ok (match c.config with
    | none => none
    | some (.plain v) => FieldValue.ofValue? v
    | some _ => some .object)
  | .path => .ok (FieldValue.ofValue? c.path)
  | .method => .ok (FieldValue.ofValue? c.method)
  | .route => .ok (FieldValue.ofValue? c.route)
  | .parameters => .ok (c.parameters.map fun ps => .value (.record ps))
  | .methods => .ok (FieldValue.ofValue? c.methods)
  | .nameSpace => .ok (FieldValue.ofValue? c.nameSpace)
  | .failure => .ok (c.failure.map .failure)
  | .resolver => .ok (match c.resolver with
    | .plain v => FieldValue.ofValue? v
    | _ => some .object)
  | .other name =>
    if name = strangeName then .error (.strangePlace name kindName)
    else .error (.lacking kindName name)

def requireField (c : Context) (f : Field) : Except Failure FieldValue := do
  match ← c.field? f with
  | some v => return v
  | none => .error (.missingField f.label)

def demand {α : Type} (f : Field) : Option α → Except Failure α
  | some a => .ok a
  | none => .error (.missingField f.label)

def demandValue (f : Field) : Value → Except Failure Value
  | .null => .error (.missingField f.label)
  | v => .ok v

def demandText (f : Field) (asked : String) (v : Value) : Except Failure String := do
  Failure.textOf asked (← demandValue f v)

/-- The remaining route, for a pattern. -/
def demandRoute (c : Context) : Except Failure String := do
  Failure.searched (← demandValue .route c.route)

/-- Adds a method to those that are there already, unless it is among them. -/
def offerMethod (c : Context) (method : Value) : Except Failure Context := do
  if ← hasMember c.methods method then return c
  else match c.methods with
    | .list items => return { c with methods := .list (items ++ [method]) }
    | methods => .error (.lacks methods "append")

theorem eq_of_offerMethod {c ctx : Context} {method : Value} (h : c.offerMethod method = .ok ctx) :
    ∃ v, ctx = { c with methods := v } := by
  unfold offerMethod at h
  rcases hm : hasMember c.methods method with f | found
  · simp [hm, bind, Except.bind] at h
  · rw [hm] at h
    simp only [bind, Except.bind, pure, Except.pure] at h
    split at h
    · cases h
      exact ⟨c.methods, rfl⟩
    · split at h
      · cases h
        exact ⟨_, rfl⟩
      · cases h

def mergeParameters (c : Context) (ps : Assoc Value) : Context :=
  { c with parameters := some (Assoc.merge (c.parameters.getD []) ps) }

def write (c : Context) (v : Value) : Except Failure Context :=
  return { c with response := ← c.response.write v }

def withMethodList (c : Context) : Except Failure Context :=
  return { c with methods := .list (← Failure.itemsOf c.methods) }

/-- A context as it is shown: its methods and what was written are lists. -/
def shown (c : Context) : Except Failure Context := do
  let items ← Failure.itemsOf c.response.body
  return { ← c.withMethodList with response := { c.response with body := .list items } }

/-- What an object with attributes is called where it is asked for one that it does not have. -/
def objectKind : String := "types.SimpleNamespace"

def configBase : Config → Except Failure String
  | .site c => return Site.wrapPath (← c.basePath)
  | .object attributes =>
    match Assoc.get? attributes "base_path" with
    | some v => Site.basePathOf v
    | none => .error (.lacking objectKind "base_path")
  | .plain v => .error (.lacks v "base_path")

end Context

def startsWith (route start : Value) : Except Failure Bool := do
  let route ← Failure.textOf "startswith" route
  match start with
  | .text s => return (Site.dropStart? s.toList route.toList).isSome
  | v =>
    .error (.badCall ("startswith first arg must be str or a tuple of str, not " ++ v.kindName))

def Predicate.test (c : Context) : Predicate → Except Failure Value
  | methodIs v => .ok (.bool (v.same c.method))
  | hasParameter name => .bool <$> hasMember (.record (c.parameters.getD [])) name
  | routeStarts start => do
    return .bool (← startsWith (← Context.demandValue .route c.route) start)
  | failureIs kind => .ok (.bool (match c.failure with
    | some f => f.kind.isA kind
    | none => false))
  | someMethods => .ok c.methods
  | constant v => .ok v
  | fails f => .error f

end HandlerChains
