import HandlerChains.Resolve

/-!
# What handlers do

A handler looks at the context, may call its action, and answers whether the search ends with it.
The answer counts by being truthy. Actions and predicates are calls to `Calls`, and routers inside a
handler are run by `inner`, so that everything here is one level of a dispatch. Where the class of a
router has a method of its own in the place of handling or running, that method is called instead.
-/

namespace HandlerChains

/-- How actions and predicates are called. -/
structure Calls where
  act : Callable → ContextRef → Exec Value
  ask : Predicate → ContextRef → Exec Value

namespace Dispatch

open Exec

variable (calls : Calls) (inner : RouterRef → ContextRef → Exec Value)

/-- Asks a router for what its class may have something else in the place of. -/
def through (r : RouterRef) (name : String) (c : ContextRef) (own : Exec Value) : Exec Value := do
  let target ← router r
  match Assoc.get? target.overrides name with
  | some (.method f) => within (.override r name) (calls.act f c)
  | some o => fail (target.misuse name (.alone Context.kindName) o)
  | none => own

theorem through_own {r : RouterRef} {name : String} {w : World}
    (h : Assoc.get? (w.router r).overrides name = none) (c : ContextRef) (own : Exec Value) :
    through calls r name c own w = own w := by
  simp [through, bind_apply, h]

/-- Calls what an action was resolved to. -/
def take (c : ContextRef) : Uptake → Exec Value
  | .action f => calls.act f c
  | .answer truthy => return .bool truthy
  | .failure f => fail f
  | .keeping place others k without => do
    let w ← get
    match w.modules.useKept place others k c with
    | (some answer, m) => do
      set { w with modules := m }
      return .bool answer
    | (none, _) => take c without

/-- Resolves an action and calls it. -/
def trigger (a : Action) (c : ContextRef) : Exec Value := do
  let found ← resolve c a
  within (.action a) (take calls c found.uptake)

/-- Calls an action whose result does not count. -/
def serve (a : Action) (c : ContextRef) : Exec Value := do
  let _ ← trigger calls a c
  return .bool true

/-- The captures of a pattern on the whole remaining route, as parameters. -/
def capture (p : Pattern) (c : ContextRef) : Exec (Option (Assoc Value)) := do
  let route ← lift (← context c).demandRoute
  return (p.matchWhole? route).map Params.values

def handleRoute (p : Pattern) (a : Action) (c : ContextRef) : Exec Value := do
  match ← capture p c with
  | none => return .bool false
  | some captured =>
    changeContext c fun ctx => ctx.mergeParameters captured
    serve calls a c

/-- An endpoint whose path matches and whose method does not offers its method. -/
def handleEndpoint (method : String) (p : Pattern) (a : Action) (c : ContextRef) : Exec Value := do
  match ← capture p c with
  | none => return .bool false
  | some captured =>
    let asked ← lift (Context.demandText .method "upper" (← context c).method)
    if Text.upper asked = method then
      changeContext c fun ctx => ctx.mergeParameters captured
      serve calls a c
    else
      offerMethod c (.text method)
      return .bool false

/-- The context inside a mount: the route is what the pattern leaves of it, and what it captured is
among the parameters. -/
def enterMount (captured : Params) (rest : String) (ctx : Context) : Context :=
  { ctx with route := .text rest }.mergeParameters captured.values

/-- The context after a mount was left: the route is the one from before, and so are the parameters
unless the router inside matched. -/
def leaveMount (before : Context) (answer : Option Value) (ctx : Context) : Context :=
  let ctx := { ctx with route := before.route }
  if answer.any Value.isTruthy then ctx else { ctx with parameters := before.parameters }

/-- Runs the router of a mount on what its pattern leaves of the route. -/
def handleMount (p : Pattern) (child : RouterRef) (c : ContextRef) : Exec Value := do
  let before ← context c
  match p.matchStart? (← lift before.demandRoute) with
  | none => return .bool false
  | some (captured, rest) =>
    changeContext c (enterMount captured rest)
    finishing (inner child c) fun answer w =>
      w.setContext c (leaveMount before answer (w.context c))

theorem handleMount_inside {p : Pattern} {c : ContextRef} {w : World} {route rest : String}
    {captured : Params} (hr : (w.context c).demandRoute = .ok route)
    (hp : p.matchStart? route = some (captured, rest)) (child : RouterRef) :
    handleMount inner p child c w =
      let e := inner child c (w.setContext c (enterMount captured rest (w.context c)))
      ⟨e.course, e.result,
        e.world.setContext c (leaveMount (w.context c) e.result.toOption (e.world.context c))⟩ := by
  simp [handleMount, bind_apply, Exec.lift, hr, hp, finishing_apply]

theorem handleMount_cases (p : Pattern) (child : RouterRef) (c : ContextRef) (w : World) :
    (∃ route captured rest, (w.context c).demandRoute = .ok route ∧
      p.matchStart? route = some (captured, rest)) ∨
    (∃ f, handleMount inner p child c w = ⟨.done, .error (.failed f), w⟩) ∨
    handleMount inner p child c w = ⟨.done, .ok (.bool false), w⟩ := by
  cases hr : (w.context c).demandRoute with
  | error f => exact .inr (.inl ⟨f, by simp [handleMount, bind_apply, Exec.lift, hr]⟩)
  | ok route =>
    cases hp : p.matchStart? route with
    | none => exact .inr (.inr (by simp [handleMount, bind_apply, Exec.lift, hr, hp]))
    | some m => exact .inl ⟨route, m.1, m.2, rfl, hp⟩

/-- The base path that was given, or else the one of the configuration. -/
def basePath (base : Option String) (c : ContextRef) : Exec String :=
  match base with
  | some base => return base
  | none => do
    let config ← lift (Context.demand .config (← context c).config)
    lift (Context.configBase config)

/-- Seeds the route with what lies below the base path, and forgets the methods offered so far. -/
def handleConfigure (base : Option String) (c : ContextRef) : Exec Value := do
  changeContext c fun ctx => { ctx with route := .null, methods := .list [] }
  let base ← basePath base c
  let path ← lift (Context.demandText .path "startswith" (← context c).path)
  match Site.routeBelow? base path with
  | none => fail (.outsideBase path base)
  | some route =>
    changeContext c fun ctx => { ctx with route := .text route }
    return .bool false

def ask (p : Predicate) (c : ContextRef) : Exec Value := within (.predicate p) (calls.ask p c)

/-- What a handler does to a context. -/
def handle (h : Handler) (c : ContextRef) : Exec Value :=
  within (.handler h) <| match h with
  | .callback a => return .bool (← trigger calls a c).isTruthy
  | .always a => serve calls a c
  | .badMethod a => do
    if (← context c).methods.isTruthy then serve calls a c else return .bool false
  | .conditional p a => do
    if (← ask calls p c).isTruthy then serve calls a c else return .bool false
  | .route p a => handleRoute calls p a c
  | .endpoint method p a => handleEndpoint calls method p a c
  | .setNamespace nameSpace => do
    changeContext c fun ctx => { ctx with nameSpace := .text nameSpace }
    return .bool false
  | .mount p child => handleMount inner p child c
  | .configure base => handleConfigure base c
  | .router r => through calls r "handle" c (inner r c)
  | .custom _ result => return result

end Dispatch
end HandlerChains
