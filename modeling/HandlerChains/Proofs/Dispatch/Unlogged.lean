import HandlerChains.Proofs.Dispatch.Mirrors
import Mathlib

/-!
# Runs without logging

A run on routers with plugins that log mirrors the run on the same routers without them. The layer
of a plugin that logs passes on what is inside it; those of other plugins and the handlers are there
on both sides.
-/

namespace HandlerChains

open Containment

/-- Whether a layer around the entries of a router is that of another plugin than those that log,
with a name of its own, or logs as it should: its logger takes lines, and the class of the router
leaves it to the router whether plugins are on. -/
def Router.TakesLayer (r : Router) (p : Plugin) : Prop :=
  if p.logs then
    (∀ kind, p.logger ≠ .unusable kind) ∧ r.IsOwn "is_plugin_enabled" ∧ r.IsOwn "_get_plugin_bucket"
  else p.name ≠ loggingName

/-- A router that takes all layers around its entries. -/
def Router.LogsPlainly (r : Router) : Prop :=
  ∀ e ∈ r.entries, ∀ p ∈ e.layers, r.TakesLayer p

/-- An entry with nothing around it but layers that log as they should. -/
def Router.OnlyLogs (r : Router) (e : Entry) : Prop :=
  ∀ p ∈ e.layers, p.logs = true ∧ r.TakesLayer p

namespace Dispatch

open Exec World

section Layers

variable {start : World} {calls : Calls} {c : ContextRef} {next next' : Exec Value} (l : Layer)

theorem expectStore_mirrors (name : String) (n : Nat) :
    Mirrors start calls c (l.expectStore name n) (l.expectStore name n) :=
  .bind_router _ fun _ => .bind (.lift _) fun _ => .lift _

theorem bind_store_mirrors {α : Type} {f g : PluginStore → Exec α}
    (h : ∀ store, Mirrors start calls c (f store) (g store.withoutLogging)) :
    Mirrors start calls c (l.store >>= f) (l.store >>= g) := by
  intro w v mirrored apart
  rw [bind_apply, Layer.store_apply, Ended.andThen_ok] at apart ⊢
  rw [bind_apply, Layer.store_apply, Ended.andThen_ok, mirrored.routers]
  exact h _ w v mirrored apart

theorem count_mirrors (other : l.plugin.name ≠ loggingName) (h : Mirrors start calls c next next') :
    Mirrors start calls c (l.count next) (l.count next') := by
  refine .bind (expectStore_mirrors l _ _) fun _ => bind_store_mirrors l fun store => ?_
  dsimp only
  rw [store.data?_withoutLogging other]
  split
  · exact .fail _
  · next counted _ =>
    refine .bind (expectStore_mirrors l _ _) fun _ => .bind (fun w v mirrored _ => ?_) fun _ => h
    refine ⟨rfl, ?_, rfl⟩
    have stored := mirrored.setStore l.router
      ((w.router l.router).store.writeData l.plugin.name l.entry.key (.text "calls") counted)
    rw [PluginStore.withoutLogging_writeData _ other] at stored
    have store := congrArg Router.store (mirrored.routers l.router)
    rw [Router.store_withoutLogging] at store
    rw [← store] at stored
    exact stored

theorem trace_mirrors (h : Mirrors start calls c next next') :
    Mirrors start calls c (l.trace next) (l.trace next') :=
  .bind (.record _) fun _ => .bind h fun _ => .bind (.record _) fun _ => .pure _

theorem gate_mirrors (other : l.plugin.name ≠ loggingName) (h : Mirrors start calls c next next') :
    Mirrors start calls c (l.gate next) (l.gate next') := by
  refine bind_store_mirrors l fun store => ?_
  rw [store.configuration_withoutLogging other]
  split
  · exact .pure _
  · exact .pure _
  · exact .fail _
  · exact h

theorem log_mirrors (other : l.plugin.name ≠ loggingName) (h : Mirrors start calls c next next') :
    Mirrors start calls c (l.log next) (l.log next') := by
  have emits : ∀ name settings wanted text, Mirrors start calls c
      (l.emit name settings wanted text) (l.emit name settings wanted text) := by
    intro name settings wanted text
    refine .ite (.bind (.lift _) fun sink => ?_) (.pure _)
    cases sink with
    | none => exact .pure _
    | some sink => exact .logLine _ _
  have reports : ∀ name settings,
      Mirrors start calls c (l.report name settings next) (l.report name settings next') := by
    intro name settings
    refine .bind (emits _ _ _ _) fun _ => .bind h.attempt fun result => ?_
    cases result with
    | ok v => exact .bind (emits _ _ _ _) fun _ => .pure _
    | error f => exact .bind (emits _ _ _ _) fun _ => .fail _
  refine .bind_router _ fun store => ?_
  simp only [Router.store_withoutLogging, Router.name_withoutLogging,
    store.configuration_withoutLogging other]
  exact .ite (reports _ _) h

theorem layer_mirrors (other : l.plugin.name ≠ loggingName) (h : Mirrors start calls c next next') :
    Mirrors start calls c (l.call next) (l.call next') := by
  have wraps : Mirrors start calls c (l.wrap next) (l.wrap next') := by
    unfold Layer.wrap
    split
    · exact h
    · exact h
    · exact count_mirrors l other h
    · exact trace_mirrors l h
    · exact gate_mirrors l other h
    · exact log_mirrors l other h
  refine .bind (expectStore_mirrors l _ _) fun _ => bind_store_mirrors l fun store => ?_
  rw [store.enabled_withoutLogging other]
  exact .ite wraps h

theorem layer_own {w : World} (asks : (w.router l.router).IsOwn "is_plugin_enabled")
    (bucket : (w.router l.router).IsOwn "_get_plugin_bucket") (call : Exec Value) :
    l.call call w =
      (if (w.router l.router).store.enabled l.plugin.name l.entry.key then l.wrap call
        else call) w := by
  have first := ((w.router l.router).expect_eq_ok_iff "is_plugin_enabled" (.several 2)).2 asks
  have second :=
    ((w.router l.router).expect_eq_ok_iff "_get_plugin_bucket" (.alone "str")).2 bucket
  simp [Layer.call, Layer.expectStore, bind_apply, first, second, Exec.lift]

/-- The layer of a plugin that logs does nothing but log where it is on, and nothing at all where it
is off. -/
theorem loggingLayer_logs (logs : l.plugin.logs = true) {w : World}
    (takes : (w.router l.router).TakesLayer l.plugin) : Logs l.call w := by
  rw [Router.TakesLayer, if_pos logs] at takes
  obtain ⟨usable, asks, bucket⟩ := takes
  have hook : l.plugin.pluginClass.hook = .log := by
    rw [show l.plugin.pluginClass = .logging by simpa [Plugin.logs] using logs]
    rfl
  let enabled := (w.router l.router).store.enabled l.plugin.name l.entry.key
  refine (Layer.log_logs usable w).ite enabled fun call v same => ?_
  have router : v.router l.router = w.router l.router := router_congr same l.router
  rw [layer_own l (by rwa [router]) (by rwa [router]), router, Layer.wrap, hook]

theorem throughLayers_logs {r : RouterRef} {e : Entry} {w : World}
    (logging : (w.router r).OnlyLogs e) : Logs (throughLayers r e) w := by
  unfold Router.OnlyLogs at logging
  unfold throughLayers
  generalize e.layers = layers at logging
  induction layers with
  | nil => exact .id w
  | cons p layers ih =>
    obtain ⟨logs, takes⟩ := logging p List.mem_cons_self
    have outer : Logs (Layer.call ⟨r, p, e.name⟩) w := loggingLayer_logs ⟨r, p, e.name⟩ logs takes
    exact outer.comp (ih fun q mem => logging q (List.mem_cons_of_mem p mem))

/-- What is inside the layer of a plugin that logs is there without it. -/
theorem loggingLayer_mirrors (logs : l.plugin.logs = true)
    (takes : (start.router l.router).TakesLayer l.plugin) (h : Mirrors start calls c next next') :
    Mirrors start calls c (l.call next) next' := by
  intro w v mirrored apart
  obtain ⟨store, kept⟩ := mirrored.kept l.router
  have takes' : (w.router l.router).TakesLayer l.plugin := by
    rw [kept]
    exact takes
  obtain ⟨w', logged, passes⟩ := (loggingLayer_logs l logs takes').passes
  obtain ⟨after, logged', eq⟩ := passes next
  rw [eq] at apart ⊢
  obtain ⟨result, worlds, sights⟩ := h w' v (mirrored.logged logged) apart
  exact ⟨result, worlds.logged logged', sights⟩

theorem throughLayers_mirrors {r : RouterRef} {e : Entry}
    (takes : ∀ p ∈ e.layers, (start.router r).TakesLayer p) (h : Mirrors start calls c next next') :
    Mirrors start calls c (throughLayers r e next) (throughLayers r e.withoutLogging next') := by
  unfold throughLayers Entry.withoutLogging
  dsimp only
  generalize e.layers = layers at takes
  induction layers with
  | nil => exact h
  | cons p layers ih =>
    have inside := ih fun q hq => takes q (List.mem_cons_of_mem p hq)
    have here := takes p List.mem_cons_self
    cases logs : p.logs with
    | true =>
      rw [List.filter_cons_of_neg (by simp [logs])]
      exact loggingLayer_mirrors ⟨r, p, e.name⟩ logs here inside
    | false =>
      rw [List.filter_cons_of_pos (by simp [logs])]
      rw [Router.TakesLayer, if_neg (by simp [logs])] at here
      exact layer_mirrors ⟨r, p, e.name⟩ here inside

end Layers

section Handlers

variable {start : World} {calls : Calls} {c : ContextRef}
variable {inner inner' : RouterRef → ContextRef → Exec Value}

theorem take_apart (u : Uptake) (h : ∀ f, u.callable? = some f → (calls.act f c).Apart) :
    (take calls c u).Apart := by
  induction u with
  | action f => exact h f rfl
  | answer truthy => exact .pure _
  | failure f => exact .fail f
  | keeping place others k without ih =>
    intro w routers log
    have modules : (w.among routers log).modules = w.modules := rfl
    rcases kept : w.modules.useKept place others k c with ⟨answer | answer, m⟩
    · simp only [take, bind_apply, get_apply, Ended.andThen_ok, modules, kept]
      exact ih h w routers log
    · simp only [take, bind_apply, get_apply, Ended.andThen_ok, modules, kept]
      exact ⟨rfl, rfl⟩

theorem trigger_mirrors (a : Action) :
    Mirrors start calls c (trigger calls a c) (trigger calls a c) := by
  intro w v mirrored apart
  unfold trigger at apart ⊢
  rw [bind_apply] at apart ⊢
  rw [bind_apply]
  obtain ⟨result, worlds⟩ := mirrored.apart (.resolve c a)
  have silent : Respects Silent (resolve c a) := (silent_steps c).resolve a
  obtain ⟨quiet, -⟩ := silent w
  obtain ⟨quiet', -⟩ := silent v
  rcases hw : resolve c a w with ⟨course, s | found, w'⟩
  all_goals
    rcases hv : resolve c a v with ⟨course', _, v'⟩
    rw [hw, hv] at result worlds
    rw [hw] at quiet
    rw [hv] at quiet'
    cases result
    cases quiet
    cases quiet'
  · exact ⟨rfl, worlds, rfl⟩
  · rw [hw] at apart
    simp only [Ended.andThen_ok, Course.done_append, within_apply, Course.calls, Stage.isCall,
      if_true, List.append_nil, List.forall_mem_singleton] at apart
    exact Mirror.within rfl worlds
      (take_apart found.uptake fun f leads => apart _ (.action rfl hw leads))

theorem serve_mirrors (a : Action) :
    Mirrors start calls c (serve calls a c) (serve calls a c) :=
  .bind (trigger_mirrors a) fun _ => .pure _

theorem ask_mirrors (p : Predicate) :
    Mirrors start calls c (ask calls p c) (ask calls p c) := by
  intro w v mirrored apart
  simp only [ask, within_apply, Course.calls, Stage.isCall, if_true, List.append_nil,
    List.forall_mem_singleton] at apart
  exact Mirror.within rfl mirrored (apart _ (.predicate rfl))

theorem through_mirrors (r : RouterRef) (name : String) {own own' : Exec Value}
    (h : Mirrors start calls c own own') :
    Mirrors start calls c (through calls r name c own) (through calls r name c own') := by
  intro w v mirrored apart
  have overrides : (v.router r).overrides = (w.router r).overrides := by
    rw [mirrored.routers, Router.overrides_withoutLogging]
  have misuse : ∀ o, (v.router r).misuse name (.alone Context.kindName) o =
      (w.router r).misuse name (.alone Context.kindName) o := by
    intro o
    rw [mirrored.routers, Router.misuse_withoutLogging]
  unfold through at apart ⊢
  simp only [bind_apply, router_apply, Ended.andThen_ok, Course.done_append, overrides,
    misuse] at apart ⊢
  cases place : Assoc.get? (w.router r).overrides name with
  | none =>
    rw [place] at apart
    exact h w v mirrored apart
  | some o =>
    cases o with
    | method f =>
      rw [place] at apart
      simp only [within_apply, Course.calls, Stage.isCall, if_true, List.append_nil,
        List.forall_mem_singleton] at apart
      exact Mirror.within rfl mirrored (apart _ (.override rfl place))
    | _ => exact ⟨rfl, mirrored, rfl⟩

theorem capture_mirrors (p : Pattern) :
    Mirrors start calls c (capture p c) (capture p c) :=
  .bind .context fun _ => .bind (.lift _) fun _ => .pure _

theorem handleRoute_mirrors (p : Pattern) (a : Action) :
    Mirrors start calls c (handleRoute calls p a c) (handleRoute calls p a c) := by
  refine .bind (capture_mirrors p) fun captured => ?_
  cases captured with
  | none => exact .pure _
  | some captured => exact .bind (.changeContext _) fun _ => serve_mirrors a

theorem handleEndpoint_mirrors (method : String) (p : Pattern) (a : Action) :
    Mirrors start calls c (handleEndpoint calls method p a c)
      (handleEndpoint calls method p a c) := by
  refine .bind (capture_mirrors p) fun captured => ?_
  cases captured with
  | none => exact .pure _
  | some captured =>
    refine .bind .context fun _ => .bind (.lift _) fun _ => .ite ?_ ?_
    · exact .bind (.changeContext _) fun _ => serve_mirrors a
    · exact .bind (.offerMethod _) fun _ => .pure _

theorem handleConfigure_mirrors (base : Option String) :
    Mirrors start calls c (handleConfigure base c) (handleConfigure base c) := by
  have based : Mirrors start calls c (basePath base c) (basePath base c) := by
    cases base with
    | some base => exact .pure _
    | none => exact .bind .context fun _ => .bind (.lift _) fun _ => .lift _
  refine .bind (.changeContext _) fun _ => .bind based fun _ => ?_
  refine .bind .context fun _ => .bind (.lift _) fun path => ?_
  split
  · exact .fail _
  · exact .bind (.changeContext _) fun _ => .pure _

theorem handleMount_mirrors (p : Pattern) {child : RouterRef}
    (h : Mirrors start calls c (inner child c) (inner' child c)) :
    Mirrors start calls c (handleMount inner p child c) (handleMount inner' p child c) := by
  refine .bind .context fun before => .bind (.lift _) fun route => ?_
  split
  · exact .pure _
  · refine .bind (.changeContext _) fun _ => .finishing h fun answer w v mirrored => ?_
    rw [mirrored.context_eq]
    exact mirrored.setContext c _

/-- A handler goes on only to the router that it leads to. -/
theorem handle_mirrors {h : Handler}
    (inside : ∀ s, h.child? = some s → Mirrors start calls c (inner s c) (inner' s c)) :
    Mirrors start calls c (handle calls inner h c) (handle calls inner' h c) := by
  refine .within ?_ rfl
  cases h with
  | callback a => exact .bind (trigger_mirrors a) fun _ => .pure _
  | always a => exact serve_mirrors a
  | badMethod a => exact .bind .context fun _ => .ite (serve_mirrors a) (.pure _)
  | conditional p a => exact .bind (ask_mirrors p) fun _ => .ite (serve_mirrors a) (.pure _)
  | route p a => exact handleRoute_mirrors p a
  | endpoint method p a => exact handleEndpoint_mirrors method p a
  | setNamespace nameSpace => exact .bind (.changeContext _) fun _ => .pure _
  | mount p child => exact handleMount_mirrors p (inside child rfl)
  | configure base => exact handleConfigure_mirrors base
  | router r => exact through_mirrors r _ (inside r rfl)
  | custom kind result => exact .pure _

end Handlers

section Runs

variable {start : World} {calls : Calls} {c : ContextRef}
variable {inner inner' : RouterRef → ContextRef → Exec Value}

theorem callEntry_mirrors {r : RouterRef} (plain : (start.router r).LogsPlainly)
    (inside : ∀ s ∈ start.children r, Mirrors start calls c (inner s c) (inner' s c))
    (error : Bool) (i : Nat) :
    Mirrors start calls c (callEntry calls inner r error c i)
      (callEntry calls inner' r error c i) := by
  refine .within (.bind_router r fun store => ?_) rfl
  rw [Router.chain_withoutLogging, List.getElem?_map]
  cases found : (Router.chain { start.router r with store } error)[i]? with
  | none => exact .pure _
  | some e =>
    have mem : e ∈ (start.router r).entries := by
      have mem := List.mem_of_getElem? found
      cases error with
      | true => exact List.mem_append_right _ mem
      | false => exact List.mem_append_left _ mem
    refine throughLayers_mirrors (plain e mem) (handle_mirrors fun s leads => inside s ?_)
    exact List.mem_filterMap.2 ⟨e, mem, leads⟩

theorem firstMatch_mirrors {call call' : Nat → Exec Value}
    (same : ∀ i, Mirrors start calls c (call i) (call' i)) (places : List Nat) :
    Mirrors start calls c (firstMatch call places) (firstMatch call' places) := by
  induction places with
  | nil => exact .pure _
  | cons i places ih => exact .bind (same i) fun _ => .ite (.pure _) ih

theorem firstMatchOr_mirrors {call call' : Nat → Exec Value}
    (same : ∀ i, Mirrors start calls c (call i) (call' i))
    {recover recover' : Nat → Failure → Exec Bool}
    (recovers : ∀ i f, Mirrors start calls c (recover i f) (recover' i f)) (places : List Nat) :
    Mirrors start calls c (firstMatchOr recover call places)
      (firstMatchOr recover' call' places) := by
  induction places with
  | nil => exact .pure _
  | cons i places ih =>
    refine .bind (same i).attempt fun answer => ?_
    cases answer with
    | ok v => exact .ite (.pure _) ih
    | error f => exact recovers i f

theorem debug_mirrors (r : RouterRef) (text : String) :
    Mirrors start calls c (debug r text) (debug r text) :=
  .bind_router r fun _ => .logLine _ _

theorem recover_mirrors {r : RouterRef} (plain : (start.router r).LogsPlainly)
    (inside : ∀ s ∈ start.children r, Mirrors start calls c (inner s c) (inner' s c))
    (i : Nat) (f : Failure) :
    Mirrors start calls c (recover calls inner r c i f) (recover calls inner' r c i f) := by
  have tries : Mirrors start calls c (tryErrorHandlers calls inner r c f)
      (tryErrorHandlers calls inner' r c f) := by
    refine .bind_router r fun _ => ?_
    rw [Router.errorHandlers_withoutLogging, List.length_map]
    exact .within (.map _ (firstMatch_mirrors (callEntry_mirrors plain inside true) _)) rfl
  have faces : Mirrors start calls c (facing f c (tryErrorHandlers calls inner r c f))
      (facing f c (tryErrorHandlers calls inner' r c f)) := by
    refine .bind .context fun before => .bind (.changeContext _) fun _ => ?_
    refine .finishing tries fun _ w v mirrored => ?_
    rw [World.putFailure, World.putFailure, mirrored.context_eq]
    exact mirrored.setContext c _
  refine .bind_router r fun store => .bind (.lift _) fun _ => .bind_router r fun store => ?_
  have name : (((Router.handlers { start.router r with store }.withoutLogging)[i]?).map
      Entry.name) = ((Router.handlers { start.router r with store })[i]?).map Entry.name := by
    rw [Router.handlers_withoutLogging, List.getElem?_map, Option.map_map]
    rfl
  rw [name]
  refine .bind (debug_mirrors r _) fun _ => .bind faces fun answer => .ite (.pure _) ?_
  exact .bind (debug_mirrors r _) fun _ => .fail f

theorem run_mirrors (depth : Nat) {r : RouterRef}
    (plain : ∀ s, Contains start.children r s → (start.router s).LogsPlainly) :
    Mirrors start calls c (run calls depth r c) (run calls depth r c) := by
  induction depth generalizing r with
  | zero => exact .stop _
  | succ depth ih =>
    have inside : ∀ s ∈ start.children r,
        Mirrors start calls c (run calls depth s c) (run calls depth s c) :=
      fun s hs => ih fun t ht => plain t (.inside hs ht)
    have here := plain r (.refl r)
    have level : Mirrors start calls c (runLevel calls (run calls depth) r c)
        (runLevel calls (run calls depth) r c) := by
      refine .bind_router r fun store => ?_
      rw [Router.handlers_withoutLogging, List.length_map]
      exact firstMatchOr_mirrors (callEntry_mirrors here inside false)
        (recover_mirrors here inside) _
    exact .within (through_mirrors r "run" (.map _ level)) rfl

end Runs

/-- A run on routers that plugins which log were attached to mirrors the run on the same routers
without them, if actions and predicates have nothing to do with routers and the log: it has the same
answer, or ends with the same failure or interruption, after the same calls, and leaves the world
the same but for those plugins and the lines that they logged. -/
theorem run_unlogged {w v : World} (made : w.LoggedBy v) {r : RouterRef}
    (plain : ∀ s, Contains v.children r s → (v.router s).LogsPlainly) (calls : Calls) (depth : Nat)
    (c : ContextRef)
    (apart : ∀ p ∈ (run calls depth r c v).course.calls, p.1.IsApart calls c) :
    let logged := run calls depth r c v
    let unlogged := run calls depth r c w.withoutLogging
    unlogged.result = logged.result ∧
      unlogged.course.sights c = logged.course.sights c ∧
      (∀ c', unlogged.world.context c' = logged.world.context c') ∧
      unlogged.world = logged.world.among unlogged.world.routers unlogged.world.log ∧
      (∀ s, unlogged.world.router s = (logged.world.router s).withoutLogging) ∧
      unlogged.world.debugLines = logged.world.debugLines ∧
      unlogged.world.log.Sublist logged.world.log := by
  have same := made.same
  have log : w.log = v.log := by rw [same.rest]
  have mirrored : v.Mirrored v w.withoutLogging := by
    refine ⟨?_, fun s => ⟨(v.router s).store, rfl⟩, fun s => ?_, ?_, ?_⟩
    · rw [same.rest]
      rfl
    · rw [router_withoutLogging, same.routers]
    · exact congrArg (List.filter _) log
    · exact log ▸ List.Sublist.refl _
  obtain ⟨result, worlds, sights⟩ := run_mirrors depth plain v _ mirrored apart
  exact ⟨result, sights, worlds.context_eq, worlds.rest, worlds.routers, worlds.debug,
    worlds.fewer⟩

/-- The router inside fails, and an error handler outside serves the request. The router inside can
have plugins. -/
def servedPluggable : World :=
  Small.world
    [Small.router [.mount .empty 1] [.always (Small.action [])],
      { Small.newRouter with
        handlers := [Small.entry false (.conditional (.constant (.bool true))
          (Small.action [.fail (.raised .boom "")]))] }]
    { route := .text "" }

def servedLogging : World :=
  (configurePlugin 1 (.text loggingName) [("before", .bool true)]
    (plug 1 (.text loggingName) [] none servedPluggable).world).world

theorem servedLogging_eq :
    servedLogging = servedPluggable.setRouter 1 { servedPluggable.router 1 with
      handlers := (servedPluggable.router 1).handlers.map fun e =>
        { e with
          plugins := [loggingName]
          layers := [⟨.logging, .standard⟩]
          told := [⟨.logging, .standard⟩] }
      plugins := [⟨.logging, .standard⟩]
      store := [(loggingName, [(everyHandler,
        { config := [("enabled", .bool true), ("before", .bool true)] })])] } := by
  cbv

theorem servedLogging_loggedBy : servedPluggable.LoggedBy servedLogging := by
  have attached : (plug 1 (.text loggingName) [] none servedPluggable).result.isOk = true := by cbv
  refine .configure (.plug .start 1 [] none rfl ?_ ?_) 1 _
  · exact List.forall_iff_forall_mem.1 rfl
  · cases answer : (plug 1 (.text loggingName) [] none servedPluggable).result with
    | ok reply => exact ⟨reply, rfl⟩
    | error s =>
      rw [answer] at attached
      cases attached

theorem servedLogging_logsPlainly (r : RouterRef) : (servedLogging.router r).LogsPlainly := by
  rw [servedLogging_eq]
  match r with
  | 0 => exact List.forall_iff_forall_mem.1 ⟨fun _ h => (nomatch h), fun _ h => (nomatch h)⟩
  | 1 => exact List.forall_iff_forall_mem.1 (List.forall_iff_forall_mem.1 ⟨nofun, rfl, rfl⟩)
  | _ + 2 => exact fun _ h => (nomatch h)

/-- Both runs are answered alike, and the log of one has two lines more. -/
theorem run_servedLogging_unlogged :
    servedPluggable.LoggedBy servedLogging ∧
      (∀ s, Contains servedLogging.children 0 s → (servedLogging.router s).LogsPlainly) ∧
      (∀ p ∈ (run Small.calls 2 0 0 servedLogging).course.calls, p.1.IsApart Small.calls 0) ∧
      (run Small.calls 2 0 0 servedPluggable).result =
        (run Small.calls 2 0 0 servedLogging).result ∧
      (run Small.calls 2 0 0 servedPluggable).world.log.length = 3 ∧
      (run Small.calls 2 0 0 servedLogging).world.log.length = 5 := by
  have plain : ∀ s, Contains servedLogging.children 0 s → (servedLogging.router s).LogsPlainly :=
    fun s _ => servedLogging_logsPlainly s
  have apart : ∀ p ∈ (run Small.calls 2 0 0 servedLogging).course.calls,
      p.1.IsApart Small.calls 0 := by
    rw [servedLogging_eq]
    refine List.forall_iff_forall_mem.1 ⟨?_, ?_, ?_⟩
    · exact Passage.isApart_of_predicate rfl (.askPredicate _ _)
    · exact Passage.isApart_of_callable rfl (.callAction _ _ (by simp))
    · exact Passage.isApart_of_callable rfl (.callAction _ _ (by simp))
  have more : (run Small.calls 2 0 0 servedLogging).world.log.length = 5 := by
    rw [servedLogging_eq]
    rfl
  have unlogged := run_unlogged servedLogging_loggedBy plain Small.calls 2 0 apart
  rw [show servedPluggable.withoutLogging = servedPluggable from rfl] at unlogged
  exact ⟨servedLogging_loggedBy, plain, apart, unlogged.1, rfl, more⟩

end Dispatch
end HandlerChains
