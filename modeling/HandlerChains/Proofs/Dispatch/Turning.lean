import HandlerChains.Perform
import HandlerChains.Proofs.Execution

/-!
# What executions make of a context

Actions that perform no commands, and the handlers around them, change nothing but the context they
are called on. `Turns` says what becomes of that context and how the execution ends, among routers
that stay as they are. There is one rule for each way to put executions together, and from these
there follows one for each kind of handler, for routers without plugins, and for their runs.
-/

namespace HandlerChains

structure World.Has (w : World) (routers : RouterRef → Router) (c : ContextRef) (ctx : Context) :
    Prop where
  routers : w.router = routers
  context : w.context c = ctx

namespace Exec

/-- Among routers that stay as they are, an execution ends with a result and turns a context into
another one. -/
def Turns {α : Type} (routers : RouterRef → Router) (c : ContextRef) (x : Exec α) (ctx : Context)
    (result : Except Stop α) (ctx' : Context) : Prop :=
  ∀ w : World, w.Has routers c ctx → (x w).result = result ∧ (x w).world.Has routers c ctx'

namespace Turns

variable {α β : Type} {routers : RouterRef → Router} {c : ContextRef} {ctx mid ctx' : Context}

theorem pure (a : α) : Turns routers c (Pure.pure a : Exec α) ctx (.ok a) ctx :=
  fun _ has => ⟨rfl, has⟩

theorem fail (f : Failure) : Turns routers c (Exec.fail f : Exec α) ctx (.error (.failed f)) ctx :=
  fun _ has => ⟨rfl, has⟩

theorem lift {x : Except Failure α} {a : α} (ok : x = .ok a) :
    Turns routers c (Exec.lift x) ctx (.ok a) ctx := by
  subst ok
  exact pure a

theorem bind {x : Exec α} {f : α → Exec β} {a : α} {result : Except Stop β}
    (h : Turns routers c x ctx (.ok a) mid) (hf : Turns routers c (f a) mid result ctx') :
    Turns routers c (x >>= f) ctx result ctx' := by
  intro w has
  obtain ⟨ended, left⟩ := h w has
  obtain ⟨result_eq, world_eq⟩ := bind_result ended f
  rw [result_eq, world_eq]
  exact hf _ left

theorem stops {x : Exec α} {s : Stop} (h : Turns routers c x ctx (.error s) ctx')
    (f : α → Exec β) : Turns routers c (x >>= f) ctx (.error s) ctx' := by
  intro w has
  obtain ⟨ended, left⟩ := h w has
  rw [bind_apply]
  rcases hw : x w with ⟨course, t | a, v⟩ <;> rw [hw] at ended left <;> cases ended
  exact ⟨rfl, left⟩

theorem andThen {x : Exec α} {f : α → Exec β} {g : α → β} {result : Except Stop α}
    (h : Turns routers c x ctx result ctx')
    (hf : ∀ a, Turns routers c (f a) ctx' (.ok (g a)) ctx') :
    Turns routers c (x >>= f) ctx (result.map g) ctx' := by
  cases result with
  | ok a => exact h.bind (hf a)
  | error s => exact h.stops f

theorem map (f : α → β) {x : Exec α} {result : Except Stop α}
    (h : Turns routers c x ctx result ctx') :
    Turns routers c (f <$> x) ctx (result.map f) ctx' := by
  intro w has
  obtain ⟨ended, left⟩ := h w has
  rw [map_apply, ended]
  exact ⟨rfl, left⟩

theorem context : Turns routers c (Exec.context c) ctx (.ok ctx) ctx :=
  fun _ has => ⟨congrArg _ has.context, has⟩

theorem router (r : RouterRef) : Turns routers c (Exec.router r) ctx (.ok (routers r)) ctx :=
  fun _ has => ⟨congrArg _ (congrFun has.routers r), has⟩

theorem change (f : Context → Context) :
    Turns routers c (changeContext c f) ctx (.ok ()) (f ctx) := by
  rintro w ⟨routers, rfl⟩
  exact ⟨rfl, routers, World.context_setContext_self ..⟩

theorem record (e : Event) : Turns routers c (Exec.record e) ctx (.ok ()) ctx :=
  fun _ has => ⟨rfl, has.routers, has.context⟩

theorem within (s : Stage) {x : Exec Value} {result : Except Stop Value}
    (h : Turns routers c x ctx result ctx') : Turns routers c (Exec.within s x) ctx result ctx' :=
  h

theorem attempt_ok {x : Exec α} {a : α} (h : Turns routers c x ctx (.ok a) ctx') :
    Turns routers c (attempt x) ctx (.ok (.ok a)) ctx' := by
  intro w has
  obtain ⟨ended, left⟩ := h w has
  rcases hw : x w with ⟨course, s | b, v⟩ <;> rw [hw] at ended left <;> cases ended
  rw [Exec.attempt_ok hw]
  exact ⟨rfl, left⟩

theorem attempt_failed {x : Exec α} {f : Failure} (ordinary : f.isOrdinary = true)
    (h : Turns routers c x ctx (.error (.failed f)) ctx') :
    Turns routers c (attempt x) ctx (.ok (.error f)) ctx' := by
  intro w has
  obtain ⟨ended, left⟩ := h w has
  rcases hw : x w with ⟨course, s | b, v⟩ <;> rw [hw] at ended left <;> cases ended
  rw [Exec.attempt_failed hw ordinary]
  exact ⟨rfl, left⟩

/-! ## Actions -/

theorem writeTo (items : List Value) (body : ctx.response.body = .list items) (v : Value) :
    Turns routers c (Exec.writeTo c v) ctx (.ok ())
      { ctx with response := { ctx.response with body := .list (items ++ [v]) } } := by
  have written : ctx.write v =
      .ok { ctx with response := { ctx.response with body := .list (items ++ [v]) } } := by
    unfold Context.write Response.write
    rw [body]
    rfl
  exact bind context (bind (lift written) (change _))

theorem keyed {table : Assoc α} {name : String} {a : α} (there : Assoc.get? table name = some a) :
    Turns routers c (Exec.keyed table name) ctx (.ok a) ctx := by
  unfold Exec.keyed
  rw [there]
  exact pure a

theorem keyed_missing {table : Assoc α} {name : String} (missing : Assoc.get? table name = none) :
    Turns routers c (Exec.keyed table name) ctx (.error (.failed (.unworded .missingKey name)))
      ctx := by
  unfold Exec.keyed
  rw [missing]
  exact fail _

theorem forM_nil (f : α → Exec Unit) : Turns routers c ([].forM f) ctx (.ok ()) ctx := pure ()

theorem forM_cons {f : α → Exec Unit} {a : α} {as : List α} {result : Except Stop Unit}
    (first : Turns routers c (f a) ctx (.ok ()) mid)
    (others : Turns routers c (as.forM f) mid result ctx') :
    Turns routers c ((a :: as).forM f) ctx result ctx' := bind first others

theorem forM_stops {f : α → Exec Unit} {a : α} {s : Stop}
    (first : Turns routers c (f a) ctx (.error s) ctx') (as : List α) :
    Turns routers c ((a :: as).forM f) ctx (.error s) ctx' := stops first _

theorem callAction {act : Command → Exec Reply} {f : Callable} {methods : List Value}
    {result : Except Stop Unit} (listed : ctx.methods = .list methods)
    (body : Turns routers c (f.body.forM (obey act c)) ctx result ctx') :
    Turns routers c (callAction act f c) ctx (result.map fun _ => f.result) ctx' := by
  have shown : ctx.withMethodList = .ok { ctx with methods := .list methods } := by
    unfold Context.withMethodList
    rw [listed]
    rfl
  refine bind context (bind (lift shown) (bind (record _) ?_))
  exact body.andThen fun _ => bind (record _) (pure _)

/-! ## Handlers -/

section

variable {calls : Calls} {inner : RouterRef → ContextRef → Exec Value} {p : Pattern}
variable {f : Callable} {route : String} {result : Except Stop Value}

theorem serve (h : Turns routers c (calls.act f c) ctx result ctx') :
    Turns routers c (Dispatch.serve calls (.callable f) c) ctx (result.map fun _ => .bool true)
      ctx' := by
  have triggered : Turns routers c (Dispatch.trigger calls (.callable f) c) ctx result ctx' :=
    bind (pure (Resolved.ofCallable f)) h
  exact triggered.andThen fun _ => pure _

theorem always (h : Turns routers c (calls.act f c) ctx result ctx') :
    Turns routers c (Dispatch.handle calls inner (.always (.callable f)) c) ctx
      (result.map fun _ => .bool true) ctx' :=
  within _ (serve h)

theorem badMethod_serves (some : ctx.methods.isTruthy = true)
    (h : Turns routers c (calls.act f c) ctx result ctx') :
    Turns routers c (Dispatch.handle calls inner (.badMethod (.callable f)) c) ctx
      (result.map fun _ => .bool true) ctx' := by
  refine within _ (bind context ?_)
  rw [if_pos some]
  exact serve h

theorem badMethod_passes (none : ctx.methods.isTruthy = false) (a : Action) :
    Turns routers c (Dispatch.handle calls inner (.badMethod a) c) ctx (.ok (.bool false)) ctx := by
  refine within _ (bind context ?_)
  rw [if_neg (by rw [none]; nofun)]
  exact pure _

theorem demandRoute (rest : ctx.route = .text route) : ctx.demandRoute = .ok route := by
  unfold Context.demandRoute
  rw [rest]
  rfl

theorem capture (rest : ctx.route = .text route) :
    Turns routers c (Dispatch.capture p c) ctx (.ok ((p.matchWhole? route).map Params.values))
      ctx :=
  bind context (bind (lift (demandRoute rest)) (pure _))

theorem endpoint_passes (rest : ctx.route = .text route) (no : p.matchWhole? route = none)
    (method : String) (a : Action) :
    Turns routers c (Dispatch.handleEndpoint calls method p a c) ctx (.ok (.bool false)) ctx := by
  refine bind (capture rest) ?_
  rw [no]
  exact pure _

theorem endpoint_serves {captured : Params} {method asked : String}
    (rest : ctx.route = .text route) (matched : p.matchWhole? route = some captured)
    (asks : ctx.method = .text asked) (own : Text.upper asked = method)
    (h : Turns routers c (calls.act f c) (ctx.mergeParameters captured.values) result ctx') :
    Turns routers c (Dispatch.handleEndpoint calls method p (.callable f) c) ctx
      (result.map fun _ => .bool true) ctx' := by
  have text : Context.demandText .method "upper" ctx.method = .ok asked := by
    rw [asks]
    rfl
  refine bind (capture rest) ?_
  rw [matched]
  refine bind context (bind (lift text) ?_)
  rw [if_pos own]
  exact bind (change _) (serve h)

theorem endpoint_offers {captured : Params} {method asked : String}
    (rest : ctx.route = .text route) (matched : p.matchWhole? route = some captured)
    (asks : ctx.method = .text asked) (other : Text.upper asked ≠ method)
    (none : ctx.methods = .list []) (a : Action) :
    Turns routers c (Dispatch.handleEndpoint calls method p a c) ctx (.ok (.bool false))
      { ctx with methods := .list [.text method] } := by
  have text : Context.demandText .method "upper" ctx.method = .ok asked := by
    rw [asks]
    rfl
  have offered : ctx.offerMethod (.text method) =
      .ok { ctx with methods := .list [.text method] } := by
    unfold Context.offerMethod
    rw [none]
    rfl
  refine bind (capture rest) ?_
  rw [matched]
  refine bind context (bind (lift text) ?_)
  rw [if_neg other]
  exact bind (bind context (bind (lift offered) (change _))) (pure _)

section

variable {config : Config} {base path : String}

theorem basePath (here : ctx.config = some config) (based : Context.configBase config = .ok base) :
    Turns routers c (Dispatch.basePath none c) ctx (.ok base) ctx := by
  have demanded : Context.demand .config ctx.config = .ok config := by
    rw [here]
    rfl
  exact bind context (bind (lift demanded) (lift based))

theorem configure_seeds (here : ctx.config = some config)
    (based : Context.configBase config = .ok base) (asked : ctx.path = .text path)
    (below : Site.routeBelow? base path = some route) :
    Turns routers c (Dispatch.handleConfigure none c) ctx (.ok (.bool false))
      { ctx with route := .text route, methods := .list [] } := by
  have text : Context.demandText .path "startswith" ctx.path = .ok path := by
    rw [asked]
    rfl
  refine bind (change _) (bind (basePath here based) (bind context (bind (lift text) ?_)))
  rw [below]
  exact bind (change _) (pure _)

theorem configure_refuses (here : ctx.config = some config)
    (based : Context.configBase config = .ok base) (asked : ctx.path = .text path)
    (outside : Site.routeBelow? base path = none) :
    Turns routers c (Dispatch.handleConfigure none c) ctx
      (.error (.failed (.outsideBase path base)))
      { ctx with route := .null, methods := .list [] } := by
  have text : Context.demandText .path "startswith" ctx.path = .ok path := by
    rw [asked]
    rfl
  refine bind (change _) (bind (basePath here based) (bind context (bind (lift text) ?_)))
  rw [outside]
  exact fail _

end

theorem mount_passes (rest : ctx.route = .text route) (no : p.matchStart? route = none)
    (child : RouterRef) :
    Turns routers c (Dispatch.handleMount inner p child c) ctx (.ok (.bool false)) ctx := by
  refine bind context (bind (lift (demandRoute rest)) ?_)
  rw [no]
  exact pure _

theorem mount {captured : Params} {left : String} {child : RouterRef}
    (rest : ctx.route = .text route) (starts : p.matchStart? route = some (captured, left))
    (h : Turns routers c (inner child c) (Dispatch.enterMount captured left ctx) result ctx') :
    Turns routers c (Dispatch.handleMount inner p child c) ctx result
      (Dispatch.leaveMount ctx result.toOption ctx') := by
  intro w has
  have entered : (w.setContext c (Dispatch.enterMount captured left (w.context c))).Has routers c
      (Dispatch.enterMount captured left ctx) :=
    ⟨has.routers, by rw [World.context_setContext_self, has.context]⟩
  obtain ⟨ended, after⟩ := h _ entered
  have here : (w.context c).demandRoute = .ok route := by
    rw [has.context]
    exact demandRoute rest
  rw [Dispatch.handleMount_inside inner here starts, has.context]
  rw [has.context] at ended after
  refine ⟨ended, after.routers, ?_⟩
  dsimp only
  rw [World.context_setContext_self, ended, after.context]

end

end Turns
end Exec

/-! ## Runs of routers without plugins -/

/-- A router without plugins that does nothing else than to try its handlers. -/
structure Router.Tries (r : Router) (handlers errorHandlers : List Handler) : Prop where
  run : Assoc.get? r.overrides "run" = none
  recover : Assoc.get? r.overrides "_recover" = none
  handlers : r.handlers.map (fun e => (e.handler, e.layers)) = handlers.map fun h => (h, [])
  errorHandlers :
    r.errorHandlers.map (fun e => (e.handler, e.layers)) = errorHandlers.map fun h => (h, [])

theorem Router.Tries.chain {r : Router} {handlers errorHandlers : List Handler}
    (tries : r.Tries handlers errorHandlers) (error : Bool) :
    (r.chain error).map (fun e => (e.handler, e.layers)) =
      (if error then errorHandlers else handlers).map fun h => (h, []) := by
  cases error with
  | false => exact tries.handlers
  | true => exact tries.errorHandlers

namespace Exec

/-- What a walk along handlers comes to: they decline one after another, until one of them matches
or fails, or there are no more. -/
inductive Walks (calls : Calls) (inner : RouterRef → ContextRef → Exec Value)
    (routers : RouterRef → Router) (r : RouterRef) (c : ContextRef) :
    List Handler → Context → Except Stop Bool → Context → Prop
  | nil {ctx : Context} : Walks calls inner routers r c [] ctx (.ok false) ctx
  | declined {h : Handler} {hs : List Handler} {ctx mid ctx' : Context} {ended : Except Stop Bool}
      {v : Value} (no : v.isTruthy = false)
      (first : Turns routers c (Dispatch.handle calls inner h c) ctx (.ok v) mid)
      (rest : Walks calls inner routers r c hs mid ended ctx') :
      Walks calls inner routers r c (h :: hs) ctx ended ctx'
  | matched {h : Handler} {hs : List Handler} {ctx ctx' : Context} {v : Value}
      (yes : v.isTruthy = true)
      (first : Turns routers c (Dispatch.handle calls inner h c) ctx (.ok v) ctx') :
      Walks calls inner routers r c (h :: hs) ctx (.ok true) ctx'
  | failed {h : Handler} {hs : List Handler} {ctx mid ctx' : Context} {ended : Except Stop Bool}
      {f : Failure} (ordinary : f.isOrdinary = true)
      (first : Turns routers c (Dispatch.handle calls inner h c) ctx (.error (.failed f)) mid)
      (recovers : ∀ i, Turns routers c (Dispatch.recover calls inner r c i f) mid ended ctx') :
      Walks calls inner routers r c (h :: hs) ctx ended ctx'

section

variable {calls : Calls} {inner : RouterRef → ContextRef → Exec Value}
variable {routers : RouterRef → Router} {c : ContextRef} {ctx mid ctx' : Context} {r : RouterRef}
variable {handlers errorHandlers : List Handler} {result : Except Stop Value}

theorem Turns.callEntry {h : Handler} (error : Bool) (i : Nat)
    (tries : (routers r).Tries handlers errorHandlers)
    (there : (if error then errorHandlers else handlers)[i]? = some h)
    (handles : Turns routers c (Dispatch.handle calls inner h c) ctx result ctx') :
    Turns routers c (Dispatch.callEntry calls inner r error c i) ctx result ctx' := by
  have found := congrArg (·[i]?) (tries.chain error)
  simp only [List.getElem?_map, there, Option.map_some, Option.map_eq_some_iff,
    Prod.mk.injEq] at found
  obtain ⟨e, here, rfl, plain⟩ := found
  intro w has
  rw [← has.routers] at here
  rw [Dispatch.callEntry_apply calls inner here, Dispatch.throughLayers, plain]
  exact handles w has

/-- The error handlers see the failure, and the context has the one from before again when they are
done. Where none of them matches, the failure goes on. -/
theorem Turns.recover {f : Failure} (found : Bool)
    (tries : (routers r).Tries handlers errorHandlers)
    (h : Turns routers c (Dispatch.firstMatch (Dispatch.callEntry calls inner r true c)
      (List.range errorHandlers.length)) { ctx with failure := some f } (.ok found) ctx')
    (i : Nat) :
    Turns routers c (Dispatch.recover calls inner r c i f) ctx
      (if found then .ok true else .error (.failed f)) { ctx' with failure := ctx.failure } := by
  have lets : (routers r).expect "_recover" (.several 3) = .ok () := by
    simp [Router.expect, tries.recover]
  have length : (routers r).errorHandlers.length = errorHandlers.length := by
    simpa using congrArg List.length tries.errorHandlers
  have debug : ∀ {ctx : Context} text, Turns routers c (Dispatch.debug r text) ctx (.ok ()) ctx :=
    fun _ _ has => ⟨rfl, has.routers, has.context⟩
  have tried : Turns routers c (Dispatch.tryErrorHandlers calls inner r c f)
      { ctx with failure := some f } (.ok (.bool found)) ctx' := by
    have counted := h
    rw [← length] at counted
    exact bind (router r) (within _ (map _ counted))
  have faced : Turns routers c
      (Dispatch.facing f c (Dispatch.tryErrorHandlers calls inner r c f)) ctx (.ok (.bool found))
      { ctx' with failure := ctx.failure } := by
    intro w has
    have facing : (w.putFailure c (some f)).Has routers c { ctx with failure := some f } :=
      ⟨has.routers, by rw [World.context_putFailure_self, has.context]⟩
    obtain ⟨ended, after⟩ := tried _ facing
    rw [Dispatch.facing_apply]
    refine ⟨ended, after.routers, ?_⟩
    rw [World.context_putFailure_self, after.context, has.context]
  refine bind (router r) (bind (lift lets) (bind (router r) (bind (debug _) (bind faced ?_))))
  cases found with
  | true => exact pure true
  | false => exact bind (debug _) (fail f)

theorem Turns.recover_none {f : Failure} (tries : (routers r).Tries handlers []) (i : Nat) :
    Turns routers c (Dispatch.recover calls inner r c i f) ctx (.error (.failed f)) ctx :=
  recover false tries (pure false) i

theorem Turns.recover_first {f : Failure} {h : Handler} {more : List Handler} {v : Value}
    (tries : (routers r).Tries handlers (h :: more))
    (handles : Turns routers c (Dispatch.handle calls inner h c) { ctx with failure := some f }
      (.ok v) ctx') (yes : v.isTruthy = true) (i : Nat) :
    Turns routers c (Dispatch.recover calls inner r c i f) ctx (.ok true)
      { ctx' with failure := ctx.failure } := by
  refine recover true tries ?_ i
  rw [List.length_cons, List.range_succ_eq_map]
  refine bind (callEntry true 0 tries rfl handles) ?_
  rw [if_pos yes]
  exact pure true

theorem Walks.turns {hs : List Handler} {ended : Except Stop Bool}
    (walks : Walks calls inner routers r c hs ctx ended ctx') (before : List Handler)
    (tries : (routers r).Tries (before ++ hs) errorHandlers) :
    Turns routers c (Dispatch.firstMatchOr (Dispatch.recover calls inner r c)
      (Dispatch.callEntry calls inner r false c) (List.range' before.length hs.length))
      ctx ended ctx' := by
  -- `before` are the handlers that declined, as many as there are places before the next one
  induction walks generalizing before with
  | nil => exact .pure _
  | @declined h hs _ _ _ _ v no first rest ih =>
    have called := Turns.callEntry false before.length tries (by simp) first
    have later := ih (before ++ [h]) (by simpa using tries)
    rw [List.length_append, List.length_singleton] at later
    refine .bind (.attempt_ok called) ?_
    dsimp only
    rw [no]
    exact later
  | matched yes first =>
    have called := Turns.callEntry false before.length tries (by simp) first
    refine .bind (.attempt_ok called) ?_
    dsimp only
    rw [yes]
    exact .pure _
  | failed ordinary first recovers =>
    have called := Turns.callEntry false before.length tries (by simp) first
    exact .bind (.attempt_failed ordinary called) (recovers _)

/-- A run is a walk along all handlers of its router. -/
theorem Walks.run {depth : Nat} {ended : Except Stop Bool}
    (walks : Walks calls (Dispatch.run calls depth) routers r c handlers ctx ended ctx')
    (tries : (routers r).Tries handlers errorHandlers) :
    Turns routers c (Dispatch.run calls (depth + 1) r c) ctx (ended.map Value.bool) ctx' := by
  have length : (routers r).handlers.length = handlers.length := by
    simpa using congrArg List.length tries.handlers
  refine .within _ (.bind (.router r) ?_)
  rw [tries.run]
  have whole := walks.turns [] tries
  rw [List.length_nil, ← length, ← List.range_eq_range'] at whole
  exact .map _ (.bind (.router r) whole)

/-- A dispatch reports a match where the run of its router matches. -/
theorem Turns.dispatch {w : World} {v : Value} (has : w.Has routers c ctx)
    (yes : v.isTruthy = true)
    (h : Turns routers c (Dispatch.run calls (Dispatch.depthFor w) r c) ctx (.ok v) ctx') :
    (Dispatch.dispatch calls r c w).result = .ok .matched ∧
      (Dispatch.dispatch calls r c w).world.Has routers c ctx' := by
  obtain ⟨ended, left⟩ := h w has
  have same : Dispatch.runRouter calls r c w = Dispatch.run calls (Dispatch.depthFor w) r c w := by
    simp [Dispatch.runRouter, bind_apply]
  rcases ran : Dispatch.run calls (Dispatch.depthFor w) r c w with ⟨course, s | a, w'⟩ <;>
    rw [ran] at ended left same <;> cases ended
  have matched : Dispatch.dispatch calls r c w = ⟨course, .ok .matched, w'⟩ := by
    simp [Dispatch.dispatch, bind_apply, Exec.attempt_ok same, yes]
  rw [matched]
  exact ⟨rfl, left⟩

end

end Exec
end HandlerChains
