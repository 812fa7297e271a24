import HandlerChains.Perform
import HandlerChains.Proofs.Dispatch.Invariant
import HandlerChains.Proofs.Registering
import HandlerChains.Proofs.Router.Attaching

/-!
# Invariants of commands

Besides running routers, commands do little to the routers and the log: they add routers, register
handlers, attach plugins, and change what plugins keep. `CommandInvariant` lists these steps. A
relation that holds of each of them, of everything that is aside, and of runs wherever it holds of
what is called during them, holds of every command. So it holds of all that actions do, which
perform commands to some depth.
-/

namespace HandlerChains

open Exec

/-- Calls of which a relation holds. -/
structure Calls.Respect (R : World → Course → World → Prop) (calls : Calls) : Prop where
  act : ∀ f c, Respects R (calls.act f c)
  ask : ∀ p c, Respects R (calls.ask p c)

/-- A relation that holds of what registration calls do, of each other step that commands take on
routers, and of runs if it holds of what is called during them. -/
structure CommandInvariant (R : World → Course → World → Prop) : Prop
    extends RegistrationInvariant R where
  store : ∀ w r s, R w .done (w.setRouter r { w.router r with store := s })
  add : ∀ w target, R w .done (w.setRouter w.routers.length target)
  plug : ∀ w r registry plugin config logger,
    R w .done (w.setRouter r ((w.router r).plug registry plugin config logger).2)
  debugLine : ∀ w text, R w .done (w.logLine ⟨.debug, text⟩)
  override : ∀ w r name e t w', R w t w' → R w (.step ⟨.override r name, w, e, w'⟩ t .done) w'
  run : ∀ {calls : Calls}, calls.Respect R → ∀ depth r c,
    Respects R (Dispatch.run calls depth r c)
  handle : ∀ {calls : Calls}, calls.Respect R → ∀ inner : RouterRef → ContextRef → Exec Value,
    (∀ r c, Respects R (inner r c)) → ∀ h c, Respects R (Dispatch.handle calls inner h c)

namespace CommandInvariant

variable {R : World → Course → World → Prop}

theorem quiet (h : CommandInvariant R) : Dispatch.QuietInvariant R where
  toComposes := h.toComposes
  event _ _ := h.aside rfl rfl
  modules _ _ := h.aside rfl rfl
  store := h.store
  debugLine := h.debugLine

theorem changeStore (h : CommandInvariant R) (r : RouterRef)
    (f : PluginStore → Except Failure PluginStore) : Respects R (Exec.changeStore r f) := by
  have hR := h.toComposes
  exact .bind hR (.router hR r) fun _ => .bind hR (.lift hR _) fun _ => .modify fun w =>
    h.store w r _

/-! ## Making routers -/

section

variable (h : CommandInvariant R)

include h

theorem declareClass (name : String) (bases : List String) (members : List Member) :
    Respects R (Exec.declareClass name bases members) := by
  have hR := h.toComposes
  have reads : ∀ m : Member, Respects R (readMember name m) := by
    intro m
    cases m with
    | constant name v => exact .pure hR _
    | setup rs => exact .pure hR _
    | method name markings body result =>
      exact .bind hR (.lift hR _) fun _ => .bind hR (.bind hR h.newSerial fun _ => .pure hR _)
        fun _ => .pure hR _
  refine .bind hR (.get hR) fun _ => .bind hR (.mapM hR (fun _ => .named hR _ _) _) fun _ => ?_
  refine .bind hR (.mapM hR reads _) fun _ => .bind hR h.newSerial fun _ => ?_
  refine .bind hR (.lift hR _) fun _ => .bind hR (.forM hR (fun _ => .lift hR _) _) fun _ => ?_
  exact h.changed (fun _ => rfl) fun _ => rfl

theorem addRouter (target : Router) : Respects R (Exec.addRouter target) :=
  fun w => h.add w target

theorem makeRouter (id className : String) (name description : Value) (basePath : Option Value) :
    Respects R (Exec.makeRouter id className name description basePath) := by
  have hR := h.toComposes
  have completes : ∀ c : RouterClass, Respects R (do
      let r ← Exec.addRouter
        { className, tier := c.tier, attributes := c.attributes, overrides := c.overrides, name
          description }
      Exec.lift (expectLookup (← Exec.router r))
      Exec.registerBuiltin r c.tier (basePath.getD .null)
      Exec.registerMarked r c
      Exec.performSetup r
      modify fun w => { w with routerNames := Assoc.put w.routerNames id r }) := by
    intro c
    refine .bind hR (h.addRouter _) fun r => .bind hR (.router hR r) fun _ => ?_
    refine .bind hR (.lift hR _) fun _ => .bind hR (h.registerBuiltin r _ _) fun _ => ?_
    refine .bind hR (h.registerMarked hR.answers r c) fun _ => ?_
    refine .bind hR (h.performSetup hR.answers r) fun _ => ?_
    exact h.changed (fun _ => rfl) fun _ => rfl
  refine .bind hR (.get hR) fun _ => .bind hR (.named hR _ _) fun c => ?_
  refine .bind hR (.lift hR _) fun _ => .bind hR (.lift hR _) fun _ => ?_
  exact .ite (.bind hR (.fail hR _) fun _ => completes c) (completes c)

end

/-! ## Commands -/

section

variable (h : CommandInvariant R)

include h

theorem replying {x : Exec Unit} (hx : Respects R x) : Respects R (Exec.done x) :=
  .bind h.toComposes hx fun _ => .pure h.toComposes _

theorem onRouter {α : Type} {f : RouterRef → Exec α} (id : String) (hf : ∀ r, Respects R (f r)) :
    Respects R (do f (← Exec.named (← get).routerNames id)) := by
  have hR := h.toComposes
  exact .bind hR (.get hR) fun _ => .bind hR (.named hR _ _) hf

theorem shownContext (c : ContextRef) : Respects R (Exec.shownContext c) := by
  have hR := h.toComposes
  exact .bind hR (.context hR c) fun _ => .lift hR _

theorem showing (c : ContextRef) {x : Exec Value} (hx : Respects R x) :
    Respects R (Exec.showing c x) := by
  have hR := h.toComposes
  exact .bind hR hx.outcome fun _ => .bind hR (h.shownContext c) fun _ => .pure hR _

theorem describeHandler (a : HandlerArgument) : Respects R (Exec.describeHandler a) := by
  have hR := h.toComposes
  cases a with
  | plain v => exact .fail hR _
  | handler a =>
    exact .bind hR (.get hR) fun w => .bind hR (.lift hR _) fun _ => .bind hR (.lift hR _)
      fun _ => .pure hR _

theorem performRun (id : String) (spec : ContextSpec)
    {run : RouterRef → ContextRef → Exec Reply} (hrun : ∀ r c, Respects R (run r c)) :
    Respects R (Exec.performRun id spec run) :=
  h.onRouter id fun r => .bind h.toComposes (h.buildContext spec) fun c => hrun r c

theorem addToRegistry (id : String) (a : ActionSpec) (name : Value) (decorated : Bool) :
    Respects R (Exec.addToRegistry id a name decorated) := by
  have hR := h.toComposes
  refine .bind hR (.get hR) fun _ => .bind hR (.named hR _ _) fun r => ?_
  refine .bind hR (h.buildTarget a) fun target => ?_
  split
  · exact .pure hR _
  · refine .bind hR (.get hR) fun _ => .bind hR (.lift hR _) fun t => ?_
    exact .bind hR (h.changed (fun _ => rfl) fun _ => rfl) fun _ => .pure hR _

theorem registerPlugin (c : Value) (isClass : Bool) (name : Option String) :
    Respects R (Exec.registerPlugin c isClass name) := by
  have hR := h.toComposes
  unfold Exec.registerPlugin
  split
  · split
    · exact .stop hR _
    · refine .bind hR (.get hR) fun _ => ?_
      have put : ∀ code c, Respects R (modify fun w =>
          { w with pluginClasses := Assoc.put w.pluginClasses code c } : Exec Unit) :=
        fun _ _ => h.changed (fun _ => rfl) fun _ => rfl
      dsimp only
      split
      · exact .bind hR (.fail hR _) fun _ => .ite (.bind hR (.fail hR _) fun _ => put _ _) (put _ _)
      · exact .ite (.bind hR (.fail hR _) fun _ => put _ _) (put _ _)
  · exact .fail hR _

theorem pluggable (r : RouterRef) (name : String) (call : Call) :
    Respects R (Exec.pluggable r name call) := by
  intro w
  obtain ⟨s, refused⟩ | taken := pluggable_cases r name call w
  · rw [refused]
    exact h.toComposes.done w
  · rw [taken]
    exact h.toComposes.done w

theorem pluginName (target : Router) (plugin : Value) :
    Respects R (Exec.pluginName target plugin) := by
  have hR := h.toComposes
  cases plugin with
  | text name => exact .pure hR _
  | _ => exact .bind hR (.lift hR _) fun _ => .fail hR _

theorem pluginAttribute (r : RouterRef) (name : Value) :
    Respects R (Exec.pluginAttribute r name) := by
  have hR := h.toComposes
  cases name with
  | text name => exact .bind hR (.router hR r) fun _ => .lift hR _
  | _ => exact .fail hR _

theorem bucketName (target : Router) (plugin : Value) :
    Respects R (Exec.bucketName target plugin) := by
  have hR := h.toComposes
  exact .bind hR (.lift hR _) fun _ => .bind hR (h.pluginName target plugin) fun _ =>
    .ite (.pure hR _) (.fail hR _)

theorem attach (r : RouterRef) (plugin : Value) (config : Assoc Value) (logger : Option Logger) :
    Respects R (Exec.plug r plugin config logger) := by
  intro w
  unfold Exec.plug
  rw [bind_apply]
  obtain ⟨s, refused⟩ | taken := pluggable_cases r "plug" (.ofCounts plugin.kindName 1
    (config.length + if logger.isSome then 1 else 0)) w
  · rw [refused]
    exact h.toComposes.done w
  · rw [taken, Ended.andThen_ok]
    have attached := h.plug w r w.pluginClasses plugin config logger
    rcases answer : (w.router r).plug w.pluginClasses plugin config logger with ⟨f | _, r'⟩
    all_goals
      rw [answer] at attached
      simpa [settle, bind_apply, answer, lift] using attached

theorem getConfig (r : RouterRef) (plugin handler : Value) :
    Respects R (Exec.getConfig r plugin handler) := by
  have hR := h.toComposes
  refine .bind hR (h.pluggable r _ _) fun target => ?_
  refine .bind hR (h.pluginName target plugin) fun _ => ?_
  split
  · exact .fail hR _
  · split
    · exact .bind hR (.lift hR _) fun _ => .pure hR _
    · exact .bind hR (.pure hR _) fun _ => .pure hR _

theorem setData (r : RouterRef) (handler plugin key v : Value) :
    Respects R (Exec.setData r handler plugin key v) := by
  have hR := h.toComposes
  refine .bind hR (h.pluggable r _ _) fun target => ?_
  refine .bind hR (h.bucketName target plugin) fun _ => ?_
  exact .bind hR (.lift hR _) fun _ => .bind hR (.lift hR _) fun _ => h.changeStore r _

theorem getData (r : RouterRef) (handler plugin key default : Value) :
    Respects R (Exec.getData r handler plugin key default) := by
  have hR := h.toComposes
  refine .bind hR (h.pluggable r _ _) fun target => ?_
  refine .bind hR (h.bucketName target plugin) fun _ => ?_
  exact .bind hR (.lift hR _) fun _ => .bind hR (.lift hR _) fun _ => .pure hR _

theorem setEnabled (r : RouterRef) (handler plugin enabled : Value) :
    Respects R (Exec.setEnabled r handler plugin enabled) := by
  have hR := h.toComposes
  refine .bind hR (h.pluggable r _ _) fun target => ?_
  refine .bind hR (h.bucketName target plugin) fun _ => ?_
  exact .bind hR (.lift hR _) fun _ => h.changeStore r _

theorem isEnabled (r : RouterRef) (handler plugin : Value) :
    Respects R (Exec.isEnabled r handler plugin) := by
  have hR := h.toComposes
  refine .bind hR (h.pluggable r _ _) fun target => ?_
  refine .bind hR (h.bucketName target plugin) fun _ => ?_
  exact .bind hR (.lift hR _) fun _ => .pure hR _

theorem configurePlugin (r : RouterRef) (plugin : Value) (config : Assoc Value) :
    Respects R (Exec.configurePlugin r plugin config) :=
  .bind h.toComposes (h.pluginAttribute r plugin) fun _ => h.changeStore r _

theorem configureHandler (r : RouterRef) (plugin handler : Value) (config : Assoc Value) :
    Respects R (Exec.configureHandler r plugin handler config) :=
  .bind h.toComposes (h.pluginAttribute r plugin) fun _ => h.changeStore r _

theorem makeRegistry (id : String) (actions : List (String × ActionSpec)) :
    Respects R (Exec.makeRegistry id actions) := by
  have hR := h.toComposes
  exact .bind hR (h.buildRows actions) fun _ => .bind hR (.lift hR _) fun _ =>
    h.changed (fun _ => rfl) fun _ => rfl

theorem update (calls : Calls) (spec : ContextSpec) (fields : List Assignment) :
    Respects R (Exec.perform calls (.update spec fields)) := by
  have hR := h.toComposes
  refine .bind hR (h.buildContext spec) fun c => .bind hR (.forM hR (fun a => ?_) fields)
    fun _ => .bind hR (h.shownContext c) fun _ => .pure hR _
  exact .bind hR (.context hR c) fun ctx => .bind hR (h.assign ctx a) fun _ => h.changeContext c _

/-! ### Reports -/

theorem describe (r : RouterRef) : Respects R (Exec.describe r) := by
  have hR := h.toComposes
  exact .bind hR (.get hR) fun _ => .lift hR _

theorem showRouter (r : RouterRef) : Respects R (Exec.showRouter r) := by
  have hR := h.toComposes
  exact .bind hR (.expect hR r _ _) fun _ => .bind hR (.router hR r) fun _ => .pure hR _

theorem listChains (r : RouterRef) : Respects R (Exec.listChains r) := by
  have hR := h.toComposes
  refine .bind hR (.router hR r) fun _ => .bind hR (.get hR) fun _ => ?_
  exact .bind hR (.lift hR _) fun _ => .bind hR (.lift hR _) fun _ => .pure hR _

theorem listEntries (r : RouterRef) (error : Bool) : Respects R (Exec.listEntries r error) := by
  have hR := h.toComposes
  refine .bind hR (.expect hR r _ _) fun _ => .bind hR (.get hR) fun _ => ?_
  exact .bind hR (.lift hR _) fun _ => .pure hR _

theorem listPlugins (r : RouterRef) : Respects R (Exec.listPlugins r) :=
  .bind h.toComposes (h.pluggable r _ _) fun _ => .pure h.toComposes _

theorem showAttribute (r : RouterRef) (name : Value) : Respects R (Exec.showAttribute r name) := by
  have hR := h.toComposes
  refine .bind hR (.router hR r) fun target => ?_
  have found : Respects R (do
      let p ← Exec.pluginAttribute r name
      return .value (.list [.text p.name, .text p.pluginClass.className]) : Exec Reply) :=
    .bind hR (h.pluginAttribute r name) fun _ => .pure hR _
  exact .ite (.bind hR (.lift hR _) fun _ => .pure hR _) found

theorem onRegistry {α β : Type} (id : String) (x : World → Nat → Except Failure α)
    (f : World → Nat → α → β) : Respects R (do
      let w ← get
      let t ← Exec.named (← get).registryNames id
      let a ← Exec.lift (x w t)
      return f w t a) := by
  have hR := h.toComposes
  exact .bind hR (.get hR) fun _ => .bind hR (.get hR) fun _ => .bind hR (.named hR _ _) fun _ =>
    .bind hR (.lift hR _) fun _ => .pure hR _

end

section

variable (h : CommandInvariant R) {calls : Calls} (hcalls : calls.Respect R)

include h hcalls

theorem runRouter (r : RouterRef) (c : ContextRef) :
    Respects R (Dispatch.runRouter calls r c) :=
  .bind h.toComposes (.get h.toComposes) fun _ => h.run hcalls _ r c

theorem dispatchOn (r : RouterRef) (c : ContextRef) :
    Respects R (Exec.dispatchOn calls r c) := by
  have hR := h.toComposes
  refine .bind hR (.router hR r) fun _ => ?_
  split
  · refine .bind hR (h.runRouter hcalls r c).attempt fun result => ?_
    cases result with
    | ok v => exact .pure hR _
    | error f => exact .bind hR (h.quiet.debug r _) fun _ => .pure hR _
  · have override : ∀ f, Respects R (within (.override r "dispatch") (calls.act f c)) :=
      fun f w => h.override w r _ _ _ _ (hcalls.act f c w)
    exact .bind hR (Dispatch.through_respects hR override (.pure hR _)) fun _ => .fail hR _

theorem performDispatch (r : RouterRef) (c : ContextRef) :
    Respects R (Exec.performDispatch calls r c) := by
  have hR := h.toComposes
  refine .bind hR (h.dispatchOn hcalls r c).outcome fun result => ?_
  cases result with
  | ok o => exact .bind hR (h.shownContext c) fun _ => .pure hR _
  | error f => exact .bind hR (h.shownContext c) fun _ => .pure hR _

theorem respond (r : RouterRef) (path method : Option Value) (config : ConfigSpec)
    (resolver : ResolverSpec) :
    Respects R (Exec.respond calls r path method config resolver) := by
  have hR := h.toComposes
  refine .bind hR (h.buildConfig config) fun _ => .bind hR (h.buildResolver resolver) fun _ => ?_
  refine .bind hR (.expect hR r _ _) fun _ => .bind hR (.router hR r) fun target => ?_
  split
  · refine .bind hR (h.addContext _) fun c => .bind hR (h.dispatchOn hcalls r c) fun _ => ?_
    exact .bind hR (.context hR c) fun _ => .pure hR _
  · exact .fail hR _
  · exact .fail hR _

theorem handleAlone (a : HandlerSpec) (spec : ContextSpec) :
    Respects R (Exec.perform calls (.handle a spec)) := by
  have hR := h.toComposes
  refine .bind hR (h.buildContext spec) fun c => h.showing c ?_
  refine .bind hR (h.buildHandler a) fun a => ?_
  cases a with
  | handler a => exact h.handle hcalls _ (h.runRouter hcalls) a c
  | plain v => exact .fail hR _

/-- The relation holds of whatever command is performed, however it ends. -/
theorem perform (command : Command) : Respects R (Exec.perform calls command) := by
  have hR := h.toComposes
  have put : ∀ {f : World → World}, (∀ w, (f w).routers = w.routers) → (∀ w, (f w).log = w.log) →
      Respects R (modify f : Exec Unit) := h.changed
  match command with
  | .declareClass id bases members => exact h.replying (h.declareClass id bases members)
  | .makeRouter id className name description basePath =>
    exact h.replying (h.makeRouter id className name description basePath)
  | .makeFunction id a =>
    exact .bind hR (h.buildTarget a) fun _ => h.replying (put (fun _ => rfl) fun _ => rfl)
  | .makeHandler id a =>
    exact .bind hR (h.buildHandler a) fun a => .bind hR (put (fun _ => rfl) fun _ => rfl)
      fun _ => h.describeHandler a
  | .makeContext id fields =>
    exact .bind hR (h.buildContext _) fun c => .bind hR (put (fun _ => rfl) fun _ => rfl)
      fun _ => .bind hR (h.shownContext c) fun _ => .pure hR _
  | .update spec fields => exact h.update calls spec fields
  | .run id spec => exact h.performRun id spec fun r c => h.showing c (h.runRouter hcalls r c)
  | .handle a spec => exact h.handleAlone hcalls a spec
  | .dispatch id spec => exact h.performRun id spec fun r c => h.performDispatch hcalls r c
  | .respond id path method config resolver =>
    exact h.onRouter id fun r => h.respond hcalls r path method config resolver
  | .nodes id => exact h.onRouter id fun r => .bind hR (h.describe r) fun _ => .pure hR _
  | .show id => exact h.onRouter id fun r => h.showRouter r
  | .chains id => exact h.onRouter id fun r => h.listChains r
  | .entries id error => exact h.onRouter id fun r => h.listEntries r error
  | .isRequest attributes => exact .pure hR _
  | .makeRegistry id actions => exact h.replying (h.makeRegistry id actions)
  | .registerAction id a name decorated => exact h.addToRegistry id a name decorated
  | .listRegistry id asked => exact h.onRegistry id _ _
  | .resolveIn id name => exact h.onRegistry id _ _
  | .setModules sources =>
    exact .bind hR (h.buildSources sources) fun _ => h.replying (put (fun _ => rfl) fun _ => rfl)
  | .importName v =>
    cases v with
    | text dotted => exact .bind hR (h.quiet.findInModules dotted) fun _ => .pure hR _
    | _ => exact .fail hR _
  | .register id reg => exact h.onRouter id fun r => h.registers r h.toComposes.answers reg
  | .registerPlugin c isClass name => exact h.replying (h.registerPlugin c isClass name)
  | .availablePlugins => exact .bind hR (.get hR) fun _ => .pure hR _
  | .plug id plugin config logger => exact h.onRouter id fun r => h.attach r plugin config logger
  | .plugins id => exact h.onRouter id fun r => h.listPlugins r
  | .attribute id name => exact h.onRouter id fun r => h.showAttribute r name
  | .configure id plugin config =>
    exact h.onRouter id fun r => h.replying (h.configurePlugin r plugin config)
  | .configureHandler id plugin handler config =>
    exact h.onRouter id fun r => h.replying (h.configureHandler r plugin handler config)
  | .getConfig id plugin handler => exact h.onRouter id fun r => h.getConfig r plugin handler
  | .setEnabled id handler plugin enabled =>
    exact h.onRouter id fun r => h.replying (h.setEnabled r handler plugin enabled)
  | .isEnabled id handler plugin => exact h.onRouter id fun r => h.isEnabled r handler plugin
  | .setData id handler plugin key v =>
    exact h.onRouter id fun r => h.replying (h.setData r handler plugin key v)
  | .getData id handler plugin key default =>
    exact h.onRouter id fun r => h.getData r handler plugin key default

end

/-! ## Actions -/

section

variable (h : CommandInvariant R)

include h

theorem writeTo (c : ContextRef) (v : Value) : Respects R (Exec.writeTo c v) := by
  have hR := h.toComposes
  exact .bind hR (.context hR c) fun _ => .bind hR (.lift hR _) fun _ => h.changeContext c _

theorem obey {act : Command → Exec Reply} (hact : ∀ command, Respects R (act command))
    (c : ContextRef) (i : Instruction) : Respects R (Exec.obey act c i) := by
  have hR := h.toComposes
  have keyed : ∀ {α : Type} (table : Assoc α) (name : String), Respects R (keyed table name) := by
    intro α table name
    unfold Exec.keyed
    split
    · exact .pure hR _
    · exact .fail hR _
  cases i with
  | fail f => exact .fail hR f
  | failAgain =>
    refine .bind hR (.context hR c) fun _ => ?_
    split <;> exact .fail hR _
  | merge ps => exact h.changeContext c _
  | setParameters ps => exact h.changeContext c _
  | assign a =>
    exact .bind hR (.context hR c) fun _ => .bind hR (h.assign _ a) fun _ => h.changeContext c _
  | offerMethod method =>
    exact .bind hR (.context hR c) fun _ => .bind hR (.lift hR _) fun _ => h.changeContext c _
  | write v => exact h.writeTo c v
  | require field =>
    exact .bind hR (.context hR c) fun _ => .bind hR (.lift hR _) fun _ => h.record _
  | perform command => exact .bind hR (hact command).outcome fun _ => h.record _
  | setStatus status => exact h.changeContext c _
  | writeMethods lead =>
    exact .bind hR (.context hR c) fun _ => .bind hR (.lift hR _) fun _ => h.writeTo c _
  | writeFailure => exact .bind hR (.context hR c) fun _ => h.writeTo c _
  | writeFrom texts parameter =>
    refine .bind hR (.context hR c) fun _ => ?_
    split
    · exact .fail hR _
    · exact .bind hR (keyed _ _) fun _ => .bind hR (keyed texts _) fun _ => h.writeTo c _

theorem callAction {act : Command → Exec Reply} (hact : ∀ command, Respects R (act command))
    (f : Callable) (c : ContextRef) : Respects R (Exec.callAction act f c) := by
  have hR := h.toComposes
  refine .bind hR (.context hR c) fun _ => .bind hR (.lift hR _) fun _ => ?_
  refine .bind hR (h.record _) fun _ => .bind hR (.forM hR (h.obey hact c) f.body) fun _ => ?_
  exact .bind hR (h.record _) fun _ => .pure hR _

/-- Actions may perform any commands, which run actions in turn that are one level further down. -/
theorem callsWithin (depth : Nat) : (Exec.callsWithin depth).Respect R := by
  have hR := h.toComposes
  have ask : ∀ p c, Respects R (askPredicate p c) := fun p c =>
    .bind hR (.context hR c) fun _ => .bind hR (h.record _) fun _ => .lift hR _
  -- actions of one level perform commands with the calls of the level before
  induction depth with
  | zero => exact ⟨fun f c => .stop hR _, ask⟩
  | succ depth ih => exact ⟨h.callAction (h.perform ih), ask⟩

end

end CommandInvariant
end HandlerChains
