import HandlerChains.Declared.Construct
import HandlerChains.Dispatch.Run
import HandlerChains.Perform.Plugins
import HandlerChains.Router.Describe

/-!
# Performing commands

A command is performed in a world and is answered by a reply or a failure; what it changed before it
failed stays changed. Actions can perform commands themselves, to a fixed depth. `World.reports`
performs a list of commands and reports on each.
-/

namespace HandlerChains
namespace Exec

variable (calls : Calls)

def shownContext (c : ContextRef) : Exec Context := do lift (← context c).shown

/-- Runs something on a context, and shows how it ended and how it left the context. -/
def showing (c : ContextRef) (x : Exec Value) : Exec Reply := do
  let result ← outcome x
  return .ran result (← shownContext c)

/-- Dispatches on a router. What a method in the place of this returns is no outcome, and what it
raises is not caught. -/
def dispatchOn (r : RouterRef) (c : ContextRef) : Exec Outcome := do
  match Assoc.get? (← router r).overrides "dispatch" with
  | none => Dispatch.dispatch calls r c
  | some _ =>
    let v ← Dispatch.through calls r "dispatch" c (return .null)
    fail (.lacks v "outcome")

/-- Dispatches on a router, and shows what it came to. Where there is no outcome, the failure is
shown in its place. -/
def performDispatch (r : RouterRef) (c : ContextRef) : Exec Reply := do
  match ← outcome (dispatchOn calls r c) with
  | .ok o => return .dispatched o (← shownContext c)
  | .error f => return .ran (.error f) (← shownContext c)

/-- Hands a request to an application. The request has to have a path and a method. -/
def respond (r : RouterRef) (path method : Option Value) (config : ConfigSpec)
    (resolver : ResolverSpec) : Exec Reply := do
  let config ← buildConfig config
  let resolver ← buildResolver resolver
  expect r "respond" .named
  let target ← router r
  match target.tier, path, method with
  | .application, some path, some method =>
    let c ← addContext { request := some .object, config, path, method, resolver }
    let o ← dispatchOn calls r c
    return .responded o (← context c).response.delivered
  | .application, _, _ => fail (.noAttribute "an attribute of the request is missing")
  | _, _, _ => fail (target.missing "respond")

/-- The tree of a router. -/
def describe (r : RouterRef) : Exec Value := do
  let w ← get
  lift (Describe.nodes w.router (w.routers.length + 1) r)

def describeHandler : HandlerArgument → Exec Reply
  | .plain v => fail (.lacks v "default_name")
  | .handler h => do
    let w ← get
    let name ← lift (h.defaultName w.router)
    let nodes := Describe.nodes w.router (w.routers.length + 1)
    return .handler name (.record (← lift (Describe.ofHandler w.router nodes h)))

def performRun (router : String) (spec : ContextSpec)
    (run : RouterRef → ContextRef → Exec Reply) : Exec Reply := do
  let r ← named (← get).routerNames router
  let c ← buildContext spec
  run r c

def registerTargets (t : Registry) : Assoc Target → Except Failure Registry
  | [] => .ok t
  | (_, .plain .null) :: rest => registerTargets t rest
  | (name, target) :: rest => do registerTargets (← t.register target (.text name)) rest

def makeRegistry (id : String) (actions : List (String × ActionSpec)) : Exec Unit := do
  let targets := Assoc.merge [] (← buildRows actions)
  let t ← lift (registerTargets [] targets)
  modify fun w =>
    let w := { w with registryNames := Assoc.put w.registryNames id w.registries.length }
    w.setRegistry w.registries.length t

/-- Registers an action with a registry. Without an action there is only a decorator. -/
def addToRegistry (id : String) (a : ActionSpec) (name : Value) (decorated : Bool) :
    Exec Reply := do
  let r ← named (← get).registryNames id
  match ← buildTarget a, decorated with
  | .plain .null, false => return .returnedAction false
  | target, _ =>
    let t ← lift (((← get).registry r).register target name)
    modify fun w => w.setRegistry r t
    return .returnedAction true

def listRegistry (id : String) (asked : List Value) : Exec Reply := do
  let t := (← get).registry (← named (← get).registryNames id)
  let answers ← lift (asked.mapM t.contains)
  return .value (.list [.list (t.map fun row => .text row.1), .int t.length,
    .list (answers.map .bool)])

/-- The kinds of what stands in the place of a chain. Nothing in it is a handler. -/
def foreignKinds : Override → Except Failure Value
  | .constant v => do
    match ← Failure.itemsOf v with
    | [] => .ok (.list [])
    | item :: _ => .error (.lacks item "kind")
  | _ => .error (.badCall "'method' object is not iterable")

def chainKinds (r : Router) (routers : RouterRef → Router) (error : Bool) : Except Failure Value :=
  let name := if error then "error_handlers" else "handlers"
  match Assoc.get? r.overrides name with
  | some .empty => .error (r.missing name)
  | some o => foreignKinds o
  | none => .list <$> (r.chain error).mapM fun e => e.handler.kind routers

def listChains (r : RouterRef) : Exec Reply := do
  let target ← router r
  let kinds := chainKinds target (← get).router
  return .value (.list [← lift (kinds false), ← lift (kinds true)])

def listEntries (r : RouterRef) (error : Bool) : Exec Reply := do
  expect r "entries" .named
  let w ← get
  return .entries (← lift (((w.router r).chain error).mapM (Entry.row w.router)))

def showRouter (r : RouterRef) : Exec Reply := do
  expect r "__repr__" .bare
  return .value (.text (← router r).literal)

def done (x : Exec Unit) : Exec Reply := do
  x
  return .nothing

/-- Performs a command; `calls` are for the actions that it runs. -/
def perform (command : Command) : Exec Reply := do
  match command with
  | .declareClass id bases members => done (declareClass id bases members)
  | .makeRouter id className name description basePath =>
    done (makeRouter id className name description basePath)
  | .makeFunction id a =>
    let t ← buildTarget a
    done (modify fun w => { w with functions := Assoc.put w.functions id t })
  | .makeHandler id h =>
    let h ← buildHandler h
    modify fun w => { w with handlers := Assoc.put w.handlers id h }
    describeHandler h
  | .makeContext id fields =>
    let c ← buildContext (.fresh fields)
    modify fun w => { w with contextNames := Assoc.put w.contextNames id c }
    return .context (← shownContext c)
  | .update spec fields =>
    let c ← buildContext spec
    fields.forM fun a => do
      let ctx ← assign (← context c) a
      changeContext c fun _ => ctx
    return .context (← shownContext c)
  | .run id spec =>
    performRun id spec fun r c => showing c (Dispatch.runRouter calls r c)
  | .handle h spec =>
    let c ← buildContext spec
    showing c do
      match ← buildHandler h with
      | .handler h => Dispatch.handleAlone calls h c
      | .plain v => fail (.lacks v "handle")
  | .dispatch id spec => performRun id spec (performDispatch calls)
  | .respond id path method config resolver =>
    respond calls (← named (← get).routerNames id) path method config resolver
  | .nodes id => return .value (← describe (← named (← get).routerNames id))
  | .show id => showRouter (← named (← get).routerNames id)
  | .chains id => listChains (← named (← get).routerNames id)
  | .entries id error => listEntries (← named (← get).routerNames id) error
  | .isRequest attributes =>
    return .value (.bool (["path", "method"].all fun name => attributes.contains name))
  | .makeRegistry id actions => done (makeRegistry id actions)
  | .registerAction id a name decorated => addToRegistry id a name decorated
  | .listRegistry id asked => listRegistry id asked
  | .resolveIn id name =>
    let t := (← get).registry (← named (← get).registryNames id)
    return .callable (← lift (t.resolve name)).label
  | .setModules sources =>
    let sources ← buildSources sources
    done (modify fun w => { w with modules := { sources := Assoc.merge [] sources } })
  | .importName (.text dotted) => return .callable (← findInModules dotted).label
  | .importName v => fail (.lacks v "split")
  | .register id reg => register (← named (← get).routerNames id) reg
  | .registerPlugin c isClass name => done (registerPlugin c isClass name)
  | .availablePlugins => availablePlugins
  | .plug id plugin config logger =>
    plug (← named (← get).routerNames id) plugin config logger
  | .plugins id => listPlugins (← named (← get).routerNames id)
  | .attribute id name => showAttribute (← named (← get).routerNames id) name
  | .configure id plugin config =>
    done (configurePlugin (← named (← get).routerNames id) plugin config)
  | .configureHandler id plugin handler config =>
    done (configureHandler (← named (← get).routerNames id) plugin handler config)
  | .getConfig id plugin handler => getConfig (← named (← get).routerNames id) plugin handler
  | .setEnabled id handler plugin enabled =>
    done (setEnabled (← named (← get).routerNames id) handler plugin enabled)
  | .isEnabled id handler plugin => isEnabled (← named (← get).routerNames id) handler plugin
  | .setData id handler plugin key v =>
    done (setData (← named (← get).routerNames id) handler plugin key v)
  | .getData id handler plugin key default =>
    getData (← named (← get).routerNames id) handler plugin key default

def writeTo (c : ContextRef) (v : Value) : Exec Unit := do
  let ctx ← lift ((← context c).write v)
  changeContext c fun _ => ctx

def keyed {α : Type} (table : Assoc α) (name : String) : Exec α :=
  match Assoc.get? table name with
  | some a => return a
  | none => fail (.unworded .missingKey name)

/-- Does what one instruction of an action says. -/
def obey (act : Command → Exec Reply) (c : ContextRef) : Instruction → Exec Unit
  | .fail f => fail f
  | .failAgain => do
    match (← context c).failure with
    | some f => fail f
    | none => fail .nothingToRaise
  | .merge ps => changeContext c fun ctx => ctx.mergeParameters (Assoc.merge [] ps)
  | .setParameters ps =>
    changeContext c fun ctx => { ctx with parameters := ps.map (Assoc.merge []) }
  | .assign a => do
    let ctx ← assign (← context c) a
    changeContext c fun _ => ctx
  | .offerMethod method => Exec.offerMethod c method
  | .write v => writeTo c v
  | .require field => do
    let v ← lift ((← context c).requireField field)
    record (.required field v)
  | .perform command => do
    let answer ← outcome (act command)
    record (.answered answer)
  | .setStatus status =>
    changeContext c fun ctx => { ctx with response := { ctx.response with status } }
  | .writeMethods lead => do
    let methods ← lift (Failure.itemsOf (← context c).methods)
    writeTo c (.text (lead ++ Value.separated (methods.map Value.shown)))
  | .writeFailure => do
    writeTo c (.text (((← context c).failure.map Failure.literal).getD "None"))
  | .writeFrom texts parameter => do
    match (← context c).parameters with
    | none => fail (.badCall "no parameters")
    | some ps => writeTo c (.text (← keyed texts (← keyed ps parameter).shown))

/-- Calls an action: its instructions one after another, and then its result. -/
def callAction (act : Command → Exec Reply) (f : Callable) (c : ContextRef) : Exec Value := do
  record (.called f.label (← lift (← context c).withMethodList))
  f.body.forM (obey act c)
  record (.returned f.label)
  return f.result

def askPredicate (p : Predicate) (c : ContextRef) : Exec Value := do
  let ctx ← context c
  record (.asked p ctx)
  lift (p.test ctx)

/-- The calls of a world whose actions perform commands, at most `depth` inside each other. -/
def callsWithin : (depth : Nat) → Calls
  | 0 => { act := fun _ _ => stop .exhausted, ask := askPredicate }
  | depth + 1 => { act := callAction (perform (callsWithin depth)), ask := askPredicate }

/-- How deep commands may be performed inside actions. -/
def commandDepth : Nat := 1000

end Exec

structure Report where
  answer : Except Failure Reply
  events : List Event
  log : List LogLine

/-- Performs one command and takes its events and lines off the world. `none` stands for a command
that names what does not exist. -/
def World.report (w : World) (command : Command) : Option Report × World :=
  match Exec.outcome (Exec.perform (Exec.callsWithin Exec.commandDepth) command) w with
  | ⟨_, .ok answer, w⟩ =>
    (some { answer, events := w.events, log := w.log }, { w with events := [], log := [] })
  | ⟨_, .error _, w⟩ => (none, w)

def World.reports (w : World) : List Command → Option (List Report)
  | [] => some []
  | command :: rest => do
    let (report, w) := w.report command
    let report ← report
    return report :: (← reports w rest)

end HandlerChains
