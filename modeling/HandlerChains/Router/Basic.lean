import HandlerChains.Handler
import HandlerChains.Plugin.Class
import HandlerChains.Plugin.Store
import HandlerChains.Router.Override

/-!
# Routers

A router has two chains of entries: the handlers that are tried in order, and the error handlers
that are tried when one of them fails. An entry carries the plugin layers that its calls go through,
the first one outermost; they are those of the last time its router was put together. It also keeps
which plugins were told of it, once for each time, which nothing that runs looks at.
-/

namespace HandlerChains

structure Entry where
  name : Value
  handler : Handler
  error : Bool
  plugins : List String := []
  metadata : Assoc Value := []
  layers : List Plugin := []
  told : List Plugin := []

def Entry.key (e : Entry) : Key := e.name.key

/-- What a class of routers can do: only chains, plugins as well, or requests as well. -/
inductive Tier where
  | plain | pluggable | application
  deriving DecidableEq, Repr

/-- `attributes` are the names of what every router of the class has, `overrides` what the class has
in their places. -/
structure Router where
  className : String
  tier : Tier
  attributes : List String := []
  overrides : Overrides := []
  name : Value := .null
  description : Value := .null
  handlers : List Entry := []
  errorHandlers : List Entry := []
  plugins : List Plugin := []
  store : PluginStore := []

instance : Inhabited Router := ⟨{ className := "BaseRouter", tier := .plain }⟩

namespace Router

/-- All entries, the handlers first. -/
def entries (r : Router) : List Entry := r.handlers ++ r.errorHandlers

def chain (r : Router) (error : Bool) : List Entry := if error then r.errorHandlers else r.handlers

def append (r : Router) (e : Entry) : Router :=
  if e.error then { r with errorHandlers := r.errorHandlers ++ [e] }
  else { r with handlers := r.handlers ++ [e] }

/-- The names that are taken, in both chains. -/
def keys (r : Router) : List Key := r.entries.map Entry.key

/-- The routers directly inside a router. -/
def children (r : Router) : List RouterRef := r.entries.filterMap fun e => e.handler.child?

/-- The attached plugin of a name: of several, the one attached last. -/
def plugin? (r : Router) (name : String) : Option Plugin :=
  r.plugins.reverse.find? fun p => p.name == name

/-- What asking a router for something that it does not have comes to. -/
def missing (r : Router) (name : String) : Failure :=
  match r.tier, r.overrides.expect "__getattr__" (.alone "str") with
  | _, .error f => f
  | .plain, _ => .lacking r.className name
  | _, _ => if name.startsWith "_" then .privateName name else .notAttached name r.name

def misuse (r : Router) (name : String) (call : Call) : Override → Failure
  | .empty => r.missing name
  | o => o.misuse call

/-- Fails where the class of a router has something else in the place of a name. -/
def expect (r : Router) (name : String) (call : Call) : Except Failure Unit :=
  match Assoc.get? r.overrides name with
  | some o => .error (r.misuse name call o)
  | none => .ok ()

/-- The method of its class that is in the place of what a router has under a name. -/
def standIn? (r : Router) (name : String) : Option Callable :=
  match Assoc.get? r.overrides name with
  | some (.method f) => some f
  | _ => none

/-- Fails where a router has a place under a name that has nothing in it. What else is in the place
is found, whatever comes of calling it. -/
def reach (r : Router) (name : String) : Except Failure Unit :=
  match Assoc.get? r.overrides name with
  | some .empty => .error (r.missing name)
  | _ => .ok ()

/-- Whether a router passes for something of another class. -/
def isDisguised (r : Router) : Bool := Assoc.has r.overrides "__class__"

/-- What a router that is taken for a context comes to. -/
def noContext (r : Router) : Failure := r.missing firstRead

/-- The plugin that a router answers to as to an attribute, unless something else has the name. -/
def pluginAttribute (r : Router) (name : String) : Except Failure Plugin :=
  let isThere := match Assoc.get? r.overrides name with
    | none => r.attributes.contains name
    | some .empty => false
    | some _ => true
  if isThere then .error (.noAttribute "no plugin")
  else match r.plugin? name, r.overrides.expect "__getattr__" (.alone "str") with
    | some p, .ok () => .ok p
    | _, _ => .error (r.missing name)

def literal (r : Router) : String :=
  r.className ++ "(name=" ++ r.name.literal ++ ", handlers=" ++ toString r.handlers.length ++
    ", error_handlers=" ++ toString r.errorHandlers.length ++ ")"

/-- The word for what a router is; a declared class can have its own. A method in that place is
no word that a report could show. -/
def kind (r : Router) : Except Failure Value :=
  match Assoc.get? r.overrides "kind" with
  | some (.constant v) => .ok v
  | some (.method _) => .error (.badCall "a method cannot be shown")
  | some o => .error (r.misuse "kind" .bare o)
  | none => .ok (.text "router")

/-- The name under which a router is registered in another one: its own, or else the word for what
it is. -/
def defaultName (r : Router) : Except Failure Value :=
  if r.name.isTruthy then .ok r.name
  else match Assoc.get? r.overrides "kind" with
    | some (.method f) => .ok (.text ("<bound method " ++ f.label ++ " of " ++ r.literal ++ ">"))
    | _ => r.kind

theorem chain_subset {r : Router} {error : Bool} {e : Entry} (mem : e ∈ r.chain error) :
    e ∈ r.entries := by
  cases error with
  | false => exact List.mem_append_left _ mem
  | true => exact List.mem_append_right _ mem

@[simp] theorem chain_append (r : Router) (e : Entry) (error : Bool) :
    (r.append e).chain error = if error = e.error then r.chain error ++ [e] else r.chain error := by
  cases error <;> cases h : e.error <;> simp [append, chain, h]

end Router
end HandlerChains
