import HandlerChains.Failure

/-!
# Scripts

Everything that can be asked of a world of routers, as data. An action's body is a list of
instructions; one of them performs a command, so actions can build and run routers themselves.
Specifications (`ActionSpec`, `HandlerSpec`, ...) describe objects that are made when the command
that holds them is performed.
-/

namespace HandlerChains

inductive Field where
  | request | response | config | path | method | route | parameters | methods | nameSpace
  | failure | resolver
  | other (name : String)
  deriving DecidableEq, Repr

def Field.label : Field → String
  | request => "request"
  | response => "response"
  | config => "config"
  | path => "path"
  | method => "method"
  | route => "remaining_route"
  | parameters => "parameters"
  | methods => "available_methods"
  | nameSpace => "namespace"
  | failure => "failure"
  | resolver => "resolver"
  | other name => name

def Field.ofLabel (name : String) : Field :=
  ([request, response, config, path, method, route, parameters, methods, nameSpace, failure,
    resolver].find? fun f => f.label == name).getD (other name)

inductive Predicate where
  | methodIs (method : Value)
  | hasParameter (name : Value)
  | routeStarts (start : Value)
  | failureIs (kind : Failure.Kind)
  | someMethods
  | constant (v : Value)
  | fails (f : Failure)

inductive PredicateSpec where
  | test (p : Predicate)
  | plain (v : Value)

inductive PatternSpec where
  | compiled (source : Value)
  | plain (v : Value)

inductive ChildSpec where
  | router (id : String)
  | plain (v : Value)

/-- The configuration of a context: a site, an object with some attributes, or a value, which has
none. Null stands for no configuration. -/
inductive ConfigSpec where
  | site (settings : Assoc Value)
  | object (attributes : Assoc Value)
  | plain (v : Value)

/-- Where a logging plugin writes: the standard log, a log of its own, or, having none, the output.
It can be handed a value of some kind that is no logger at all. -/
inductive Logger where
  | standard | custom | silent
  | unusable (kind : String)
  deriving DecidableEq, Repr

/-- The logger that a value stands for: the standard one for whatever is no yes. -/
def Logger.ofValue (v : Value) : Logger :=
  if v.isTruthy then unusable v.kindName else standard

/-- What an action is registered for. -/
inductive Purpose where
  | callback | badMethod | notFound | error
  | condition (p : PredicateSpec)
  | route (p : PatternSpec)
  | endpoint (method : Value) (p : PatternSpec)
  | shortcut (method : String) (p : PatternSpec)

inductive Mark where
  | route | endpoint | notFound | badMethod | callback | error
  | shortcut (method : String)
  deriving DecidableEq, Repr

/-- One use of a decorator. -/
structure Marking where
  mark : Mark
  arguments : List Value
  options : Assoc Value

mutual

inductive Instruction where
  | fail (f : Failure)
  | failAgain
  | merge (ps : Assoc Value)
  | setParameters (ps : Option (Assoc Value))
  | assign (a : Assignment)
  | offerMethod (method : Value)
  | write (v : Value)
  | require (field : Field)
  | perform (c : Command)
  | setStatus (status : Nat)
  | writeMethods (lead : String)
  | writeFailure
  | writeFrom (texts : List (String × String)) (parameter : String)

inductive ActionSpec where
  | function (label : String) (body : List Instruction) (result : Value)
  | object (label : String) (body : List Instruction) (result : Value)
  | known (id : String)
  | named (name : String)
  | plain (v : Value)

/-- What looks names up: the modules, a registry, a table, or a value, which cannot. -/
inductive ResolverSpec where
  | modules
  | registry (id : String)
  | table (rows : List (String × ActionSpec))
  | plain (v : Value)

inductive Assignment where
  | request (v : Value)
  | response (v : Value)
  | path (v : Value)
  | method (v : Value)
  | route (v : Value)
  | parameters (v : Option (Assoc Value))
  | methods (v : Value)
  | nameSpace (v : Value)
  | failure (v : Option Failure)
  | config (v : ConfigSpec)
  | resolver (v : ResolverSpec)
  | unknown (name : String) (v : Value)

inductive ContextSpec where
  | known (id : String)
  | fresh (fields : List Assignment)

inductive HandlerSpec where
  | callback (a : ActionSpec)
  | always (a : ActionSpec)
  | badMethod (a : ActionSpec)
  | conditional (p : PredicateSpec) (a : ActionSpec)
  | route (p : PatternSpec) (a : ActionSpec)
  | endpoint (method : Value) (p : PatternSpec) (a : ActionSpec)
  | setNamespace (v : Value)
  | mount (p : PatternSpec) (child : ChildSpec)
  | configure (base : Value)
  | router (id : String)
  | known (id : String)
  | custom (kind result : Value)
  | plain (v : Value)

/-- What is registered. -/
inductive Subject where
  | handler (error : Bool) (h : HandlerSpec)
  | setNamespace (v : Value)
  | mount (p : PatternSpec) (child : ChildSpec)
  | action (purpose : Purpose) (a : ActionSpec)

/-- A registration call. The option `name` names the entry. With `decorated` the action is handed in
afterwards, to the decorator that the call returns. -/
inductive Registration where
  | mk (subject : Subject) (options : List (String × Value)) (decorated : Bool)

/-- A member of a declared class. A `setup` is the hook `initialize`: the registrations that end the
construction of a router. -/
inductive Member where
  | method (name : String) (markings : List Marking) (body : List Instruction) (result : Value)
  | constant (name : String) (v : Value)
  | setup (rs : List Registration)

inductive ModuleItemSpec where
  | action (a : ActionSpec)
  | space (items : List (String × ModuleItemSpec))

/-- The source of a module: what it defines, and how loading it fails, if it does. -/
inductive ModuleSource where
  | mk (items : List (String × ModuleItemSpec)) (failure : Option Failure)

inductive Command where
  | declareClass (id : String) (bases : List String) (members : List Member)
  | makeRouter (id className : String) (name description : Value) (basePath : Option Value)
  | makeFunction (id : String) (a : ActionSpec)
  | makeHandler (id : String) (h : HandlerSpec)
  | makeContext (id : String) (fields : List Assignment)
  | update (context : ContextSpec) (fields : List Assignment)
  | run (router : String) (context : ContextSpec)
  | handle (h : HandlerSpec) (context : ContextSpec)
  | dispatch (router : String) (context : ContextSpec)
  | respond (router : String) (path method : Option Value) (config : ConfigSpec)
    (resolver : ResolverSpec)
  | nodes (router : String)
  | show (router : String)
  | chains (router : String)
  | entries (router : String) (error : Bool)
  | isRequest (attributes : List String)
  | makeRegistry (id : String) (actions : List (String × ActionSpec))
  | registerAction (id : String) (a : ActionSpec) (name : Value) (decorated : Bool)
  | listRegistry (id : String) (asked : List Value)
  | resolveIn (id : String) (name : Value)
  | setModules (sources : List (String × ModuleSource))
  | importName (dotted : Value)
  | register (router : String) (r : Registration)
  | registerPlugin (pluginClass : Value) (isClass : Bool) (name : Option String)
  | availablePlugins
  | plug (router : String) (plugin : Value) (config : List (String × Value))
    (logger : Option Logger)
  | plugins (router : String)
  | attribute (router : String) (name : Value)
  | configure (router : String) (plugin : Value) (config : List (String × Value))
  | configureHandler (router : String) (plugin handler : Value) (config : List (String × Value))
  | getConfig (router : String) (plugin handler : Value)
  | setEnabled (router : String) (handler plugin enabled : Value)
  | isEnabled (router : String) (handler plugin : Value)
  | setData (router : String) (handler plugin key v : Value)
  | getData (router : String) (handler plugin key default : Value)

end

instance : Inhabited Instruction := ⟨.failAgain⟩

end HandlerChains
