import HandlerChains.Declared.Extend
import HandlerChains.Perform.Register

/-!
# Declaring classes and making routers

A class is declared from its bases, which have to agree on a line, and its members, whose decorators
are read at once. A router of a class is made in three steps: what its tier registers by itself, the
marked methods of its line, and the setup that its class declares.
-/

namespace HandlerChains
namespace Exec

def readMember (className : String) : Member → Exec (String × ClassMember)
  | .constant name v => return (name, .constant v)
  | .setup rs => return ("initialize", .setup rs)
  | .method name markings body result => do
    let markers ← lift (markings.mapM Marking.marker)
    let callable ← newCallable (className ++ "." ++ name) (some name) body result
    return (name, .method { callable, markers })

/-- The hook of a class that is called when another one is made of it. -/
def expectExtensible (c : RouterClass) : Exec Unit :=
  lift (c.overrides.expectOfClass "__init_subclass__" .bare)

def declareClass (name : String) (bases : List String) (members : List Member) : Exec Unit := do
  let classes := (← get).classes
  let bases ← bases.mapM (named classes)
  let members ← members.mapM (readMember name)
  let serial ← newSerial
  let c ← lift (RouterClass.extend name serial bases (Assoc.merge [] members))
  bases.forM expectExtensible
  modify fun w => { w with classes := Assoc.put w.classes name c }

def markedArgument (name : String) : Option Value → Exec Value
  | some v => pure v
  | none => fail (.unworded .missingKey name)

def markedPurpose (m : Marker) : Exec Purpose := do
  match m.mark with
  | .route => return .route (.plain (← markedArgument "pattern" m.pattern))
  | .endpoint | .shortcut _ =>
    let method ← markedArgument "method" m.method
    return .endpoint method (.plain (← markedArgument "pattern" m.pattern))
  | .notFound => return .notFound
  | .badMethod => return .badMethod
  | .callback => return .callback
  | .error => return .error

/-- Registers a marked method for one of its marks, unless a method of its class stands in the place
of the verb and answers instead. -/
def registerMark [Answering] (r : RouterRef) (f : Callable) (m : Marker) : Exec Unit := do
  let purpose ← markedPurpose m
  match ← openCall r purpose (some (.callable f)) m.options with
  | .taken pattern? => addAction r purpose pattern? (.callable f) m.options
  | .answered _ => return ()

/-- What routers of a tier register before anything else. -/
def registerBuiltin (r : RouterRef) (tier : Tier) (basePath : Value) : Exec Unit := do
  expect r "_register_builtin_handlers" .bare
  match tier with
  | .application =>
    let h ← buildHandler (.configure basePath)
    expect r "handler" .named
    addHandler r h false [("name", .text "configure")] none
  | .plain | .pluggable => pure ()

/-- Registers all marked methods of a class, each for all its marks, the innermost first. -/
def registerMarked [Answering] (r : RouterRef) (c : RouterClass) : Exec Unit := do
  expect r "_register_marked" .bare
  expect r "_iter_marked_methods" .bare
  c.markedMethods.forM fun (_, m) => m.markers.forM (registerMark r m.callable)

/-- Ends the construction of a router with the hook of its class, if it has one. -/
def performSetup [Answering] (r : RouterRef) : Exec Unit := do
  match Assoc.get? (← router r).overrides "initialize" with
  | some (.setup rs) => rs.forM fun reg => do let _ ← register r reg
  | some o => fail ((← router r).misuse "initialize" .bare o)
  | none => pure ()

def addRouter (router : Router) : Exec RouterRef := do
  let w ← get
  set (w.setRouter w.routers.length router)
  return w.routers.length

/-- Fails where a class has another way of making its routers, or of setting their fields. -/
def expectConstruction (overrides : Overrides) : Except Failure Unit := do
  overrides.expectOfClass "__new__" .bare
  overrides.expect "__init__" .bare
  overrides.expect "__setattr__" (.several 2)

def expectFields (c : RouterClass) : Except Failure Unit :=
  if c.fields.any c.isBlocked then .error (.noAttribute "attribute is read-only") else .ok ()

/-- Fails where the class of a router has its own way to look up what the router has. A method in
that place takes a name for a context, and so it finds nothing, as an empty place does. -/
def expectLookup (r : Router) : Except Failure Unit :=
  match Assoc.get? r.overrides "__getattribute__" with
  | some (.method _) | some .empty => .error (r.missing "_register_builtin_handlers")
  | some o => .error (o.misuse (.alone "str"))
  | none => .ok ()

/-- Makes a router. Its name is known only once it is complete. -/
def makeRouter [Answering] (id className : String) (name description : Value)
    (basePath : Option Value) : Exec Unit := do
  let c ← named (← get).classes className
  lift (expectConstruction c.overrides)
  lift (expectFields c)
  if basePath.isSome ∧ c.tier ≠ .application then fail (.badCall "unexpected keyword argument")
  let r ← addRouter
    { className, tier := c.tier, attributes := c.attributes, overrides := c.overrides, name
      description }
  lift (expectLookup (← router r))
  registerBuiltin r c.tier (basePath.getD .null)
  registerMarked r c
  performSetup r
  modify fun w => { w with routerNames := Assoc.put w.routerNames id r }

end Exec
end HandlerChains
