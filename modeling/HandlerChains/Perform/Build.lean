import HandlerChains.Exec

/-!
# Building what specifications describe

Targets, handlers, contexts and modules are made from their specifications when a command is
performed. A new function is a new callable each time; what a specification names has to exist,
except that a module looks for a function only when it is loaded.
-/

namespace HandlerChains

namespace Exec

/-- The own name of a function: what follows the last dot of its label. -/
def ownName (label : String) : String := (Text.fields '.' label).getLastD label

def newSerial : Exec Nat := do
  let w ← get
  set { w with nextSerial := w.nextSerial + 1 }
  return w.nextSerial

def newCallable (label : String) (ownName : Option String) (body : List Instruction)
    (result : Value) : Exec Callable :=
  return { serial := ← newSerial, label, ownName, body, result }

def buildTarget : ActionSpec → Exec Target
  | .function label body result =>
    .callable <$> newCallable label (some (ownName label)) body result
  | .object label body result => .callable <$> newCallable label none body result
  | .known id => do named (← get).functions id
  | .named name => return .named name
  | .plain v => return .plain v

def buildRows : List (String × ActionSpec) → Exec (Assoc Target)
  | [] => return []
  | (name, a) :: rest => do return (name, ← buildTarget a) :: (← buildRows rest)

/-- Compiles a pattern argument. A pattern that was compiled beforehand fails at once, a value only
where its handler looks at it. -/
def readPattern : PatternSpec → Except Failure (Except Failure Pattern)
  | .compiled source => return .ok (← Handler.compilePattern source)
  | .plain v => .ok (Handler.compilePattern v)

/-- A mount: what it leads to is looked at before its pattern. -/
def buildMount (p : PatternSpec) (child : ChildSpec) : Exec Handler := do
  let p ← lift (readPattern p)
  match child with
  | .router id =>
    let r ← named (← get).routerNames id
    if (← router r).isDisguised then fail (.noAttribute "a class is expected")
    return .mount (← lift p) r
  | .plain v => fail (.mountNeedsRouter v)

/-- Builds a handler. A route and an endpoint look at their action before their pattern. -/
def buildHandler : HandlerSpec → Exec HandlerArgument
  | .callback a => do return .handler (.callback (← action a))
  | .always a => do return .handler (.always (← action a))
  | .badMethod a => do return .handler (.badMethod (← action a))
  | .conditional p a => do
    let target ← buildTarget a
    .handler <$> lift (Handler.makeConditional p target)
  | .route p a => do
    let p ← lift (readPattern p)
    let a ← action a
    return .handler (.route (← lift p) a)
  | .endpoint method p a => do
    let p ← lift (readPattern p)
    let target ← buildTarget a
    let method ← lift (Handler.methodOf method)
    let a ← lift (Action.ofTarget target)
    return .handler (.endpoint method (← lift p) a)
  | .setNamespace v => do return .handler (.setNamespace (← lift (Handler.nameSpaceOf v)))
  | .mount p child => .handler <$> buildMount p child
  | .configure .null => return .handler (.configure none)
  | .configure v => do return .handler (.configure (some (← lift (Site.basePathOf v))))
  | .router id => do return .handler (.router (← named (← get).routerNames id))
  | .known id => do named (← get).handlers id
  | .custom kind result => return .handler (.custom kind result)
  | .plain v => return .plain v
where
  action (a : ActionSpec) : Exec Action := do lift (Action.ofTarget (← buildTarget a))

def buildConfig : ConfigSpec → Exec (Option Config)
  | .site settings => do return some (.site (← lift (SiteConfig.ofSettings settings)))
  | .object attributes => return some (.object attributes)
  | .plain .null => return none
  | .plain v => return some (.plain v)

def buildResolver : ResolverSpec → Exec Resolver
  | .modules => return .modules
  | .registry id => do return .registry (← named (← get).registryNames id)
  | .table rows => do return .table (Assoc.merge [] (← buildRows rows))
  | .plain v => return .plain v

def assign (ctx : Context) : Assignment → Exec Context
  | .request v => return { ctx with request := FieldValue.ofValue? v }
  | .response v => return { ctx with response := ctx.response.replace v }
  | .path v => return { ctx with path := v }
  | .method v => return { ctx with method := v }
  | .route v => return { ctx with route := v }
  | .parameters v => return { ctx with parameters := v.map (Assoc.merge []) }
  | .methods v => return { ctx with methods := v }
  | .nameSpace v => return { ctx with nameSpace := v }
  | .failure v => return { ctx with failure := v }
  | .config v => return { ctx with config := ← buildConfig v }
  | .resolver v => return { ctx with resolver := ← buildResolver v }
  | .unknown name v => fail (Context.refusal name v)

def assignEach : Context → List Assignment → Exec Context
  | ctx, [] => return ctx
  | ctx, a :: rest => do assignEach (← assign ctx a) rest

def addContext (ctx : Context) : Exec ContextRef := do
  let w ← get
  set (w.setContext w.contexts.length ctx)
  return w.contexts.length

def buildContext : ContextSpec → Exec ContextRef
  | .known id => do named (← get).contextNames id
  | .fresh fields => do addContext (← assignEach {} fields)

mutual

def buildItem : ModuleItemSpec → Exec ModuleItem
  | .action (.known id) => return .function id
  | .action a => .target <$> buildTarget a
  | .space items => do return .space (Assoc.merge [] (← buildItems items))

def buildItems : List (String × ModuleItemSpec) → Exec (Assoc ModuleItem)
  | [] => return []
  | (name, item) :: rest => do return (name, ← buildItem item) :: (← buildItems rest)

end

def buildSources : List (String × ModuleSource) → Exec (Assoc ModuleCode)
  | [] => return []
  | (name, .mk items failure) :: rest => do
    let code : ModuleCode := { items := Assoc.merge [] (← buildItems items), failure }
    return (name, code) :: (← buildSources rest)

end Exec
end HandlerChains
