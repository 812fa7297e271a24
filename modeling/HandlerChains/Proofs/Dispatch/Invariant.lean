import HandlerChains.Dispatch.Run
import HandlerChains.Proofs.Execution

/-!
# Invariants of runs

What a run itself does to the world is little: it reports, logs, loads modules, counts calls, and
changes its context. `Invariant` lists these steps and the stages of a run. A relation that holds of
each of them holds of every run, whatever the actions and predicates do. `WalkInvariant` is for
relations that are about what the handlers do: it asks for each handler as a whole. `RunInvariant`
is for relations that are about what the layers around them do, too: it asks for each call of an
entry as a whole.
-/

namespace HandlerChains
namespace Dispatch

open Exec

/-- A relation that holds of each step of a run that is beside the context, where nothing is logged
but for debugging. -/
structure QuietInvariant (R : World → Course → World → Prop) : Prop extends Composes R where
  event : ∀ w e, R w .done (w.record e)
  modules : ∀ w m, R w .done { w with modules := m }
  store : ∀ w r s, R w .done (w.setRouter r { w.router r with store := s })
  debugLine : ∀ w text, R w .done (w.logLine ⟨.debug, text⟩)

/-- A relation that holds of each step of a run that is beside the context. -/
structure SideInvariant (R : World → Course → World → Prop) : Prop extends QuietInvariant R where
  line : ∀ w l, R w .done (w.logLine l)
  debugLine := fun w text => line w ⟨.debug, text⟩

/-- A relation that holds of each quiet step, and of each step that changes the context. -/
structure ContextInvariant (c : ContextRef) (R : World → Course → World → Prop) : Prop
    extends QuietInvariant R where
  context : ∀ w ctx, ctx.failure = (w.context c).failure → R w .done (w.setContext c ctx)

/-- A relation that holds of each step that a run on a context takes by itself. -/
structure StepInvariant (c : ContextRef) (R : World → Course → World → Prop) : Prop
    extends SideInvariant R, ContextInvariant c R

/-- A relation that holds of what is called during a run on a context, and of the steps that change
neither the failure of the context nor its methods. -/
structure CallInvariant (calls : Calls) (c : ContextRef) (R : World → Course → World → Prop) :
    Prop extends QuietInvariant R where
  frame : ∀ w ctx, ctx.failure = (w.context c).failure → ctx.methods = (w.context c).methods →
    R w .done (w.setContext c ctx)
  action : ∀ a u, Respects R (within (.action a) (take calls c u))
  predicate : ∀ p, Respects R (within (.predicate p) (calls.ask p c))
  override : ∀ r name f, Respects R (within (.override r name) (calls.act f c))

/-- A relation that holds of what is called during a run on a context, of each handler if it holds
of the runs inside it, and of the other stages. -/
structure WalkInvariant (calls : Calls) (c : ContextRef) (R : World → Course → World → Prop) :
    Prop extends CallInvariant calls c R, SideInvariant R where
  run : ∀ w r e t w', R w t w' → R w (.step ⟨.run r, w, e, w'⟩ t .done) w'
  entry : ∀ depth r error i w t,
    let e := callEntry calls (Dispatch.run calls depth) r error c i w
    e.course = .step ⟨.entry r error i, w, e.result, e.world⟩ t .done → R w t e.world →
      R w e.course e.world
  handle : ∀ inner : RouterRef → ContextRef → Exec Value, (∀ r, Respects R (inner r c)) →
    ∀ h, Respects R (handle calls inner h c)
  recovery : ∀ w r f e t w', R (w.putFailure c (some f)) t w' →
    R w (.step ⟨.recovery r f, w.putFailure c (some f), e, w'⟩ t .done)
      (w'.putFailure c (w.context c).failure)

/-- A relation that holds of what is called during a run on a context, of each call of an entry as a
whole if it holds of the runs inside it, and of the other stages. -/
structure RunInvariant (calls : Calls) (c : ContextRef) (R : World → Course → World → Prop) :
    Prop extends Composes R where
  debugLine : ∀ w text, R w .done (w.logLine ⟨.debug, text⟩)
  override : ∀ r name f, Respects R (within (.override r name) (calls.act f c))
  run : ∀ w r e t w', R w t w' → R w (.step ⟨.run r, w, e, w'⟩ t .done) w'
  callEntry : ∀ depth, (∀ r, Respects R (Dispatch.run calls depth r c)) →
    ∀ r error i, Respects R (callEntry calls (Dispatch.run calls depth) r error c i)
  recovery : ∀ w r f e t w', R (w.putFailure c (some f)) t w' →
    R w (.step ⟨.recovery r f, w.putFailure c (some f), e, w'⟩ t .done)
      (w'.putFailure c (w.context c).failure)

/-- A relation that holds of each step and each stage of a handler on a context. -/
structure HandlerInvariant (calls : Calls) (c : ContextRef) (R : World → Course → World → Prop) :
    Prop extends ContextInvariant c R where
  handler : ∀ w h e t w', R w t w' → R w (.step ⟨.handler h, w, e, w'⟩ t .done) w'
  action : ∀ a u, Respects R (within (.action a) (take calls c u))
  predicate : ∀ p, Respects R (within (.predicate p) (calls.ask p c))
  override : ∀ r name f, Respects R (within (.override r name) (calls.act f c))

/-- A relation that holds of each step and each stage of a run on a context. -/
structure Invariant (calls : Calls) (c : ContextRef) (R : World → Course → World → Prop) : Prop
    extends StepInvariant c R, HandlerInvariant calls c R where
  run : ∀ w r e t w', R w t w' → R w (.step ⟨.run r, w, e, w'⟩ t .done) w'
  entry : ∀ depth r error i w t,
    let e := callEntry calls (Dispatch.run calls depth) r error c i w
    e.course = .step ⟨.entry r error i, w, e.result, e.world⟩ t .done → R w t e.world →
      R w e.course e.world
  recovery : ∀ w r f e t w', R (w.putFailure c (some f)) t w' →
    R w (.step ⟨.recovery r f, w.putFailure c (some f), e, w'⟩ t .done)
      (w'.putFailure c (w.context c).failure)

theorem failure_leaveMount (before : Context) (answer : Option Value) (ctx : Context) :
    (leaveMount before answer ctx).failure = ctx.failure := by
  unfold leaveMount
  dsimp only
  split <;> rfl

theorem methods_leaveMount (before : Context) (answer : Option Value) (ctx : Context) :
    (leaveMount before answer ctx).methods = ctx.methods := by
  unfold leaveMount
  dsimp only
  split <;> rfl

theorem through_respects {calls : Calls} {c : ContextRef} {R : World → Course → World → Prop}
    (hR : Composes R) {r : RouterRef} {name : String} {own : Exec Value}
    (override : ∀ f, Respects R (within (.override r name) (calls.act f c)))
    (ho : Respects R own) : Respects R (through calls r name c own) := by
  refine .bind hR (.router hR r) fun target => ?_
  split
  · exact override _
  · exact .fail hR _
  · exact ho

namespace QuietInvariant

variable {c : ContextRef} {R : World → Course → World → Prop} {next : Exec Value}

theorem findInModules (h : QuietInvariant R) (name : String) :
    Respects R (findInModules name) := by
  have reported : ∀ w (l : List String),
      R w .done (l.foldl (fun w module => w.record (.executed module)) w) := by
    intro w l
    induction l generalizing w with
    | nil => exact h.done w
    | cons module l ih => exact h.append (h.event w _) (ih _)
  refine .bind h.toComposes (.settle fun w => ?_) fun _ => .lift h.toComposes _
  exact h.append (h.modules w _) (reported _ _)

theorem findIn (h : QuietInvariant R) (resolver : Resolver) (name : String) :
    Respects R (findIn resolver name) := by
  have hR := h.toComposes
  cases resolver with
  | plain v => exact .fail hR _
  | modules => exact h.findInModules name
  | registry r => exact .bind hR (.get hR) fun w => .map hR _ (.lift hR _)
  | table rows =>
    unfold Exec.findIn
    dsimp only
    split
    · exact .pure hR _
    · exact .fail hR _

theorem resolve (h : QuietInvariant R) (a : Action) : Respects R (resolve c a) := by
  have hR := h.toComposes
  cases a with
  | callable f => exact .pure hR _
  | named name =>
    exact .bind hR (.context hR c) fun ctx => .bind hR (.lift hR _) fun _ => h.findIn _ _

theorem take (h : QuietInvariant R) {calls : Calls} (act : ∀ f, Respects R (calls.act f c))
    (u : Uptake) : Respects R (take calls c u) := by
  have hR := h.toComposes
  induction u with
  | action f => exact act f
  | answer truthy => exact .pure hR _
  | failure f => exact .fail hR _
  | keeping place others k without ih =>
    intro w
    rcases kept : w.modules.useKept place others k c with ⟨answer | answer, m⟩
    · simp only [Dispatch.take, bind_apply, get_apply, Ended.andThen_ok, kept]
      exact ih w
    · simp only [Dispatch.take, bind_apply, get_apply, Ended.andThen_ok, kept]
      exact h.modules w m

theorem expectStore (h : QuietInvariant R) (l : Layer) (name : String) (n : Nat) :
    Respects R (l.expectStore name n) := by
  have hR := h.toComposes
  exact .bind hR (.router hR _) fun _ => .bind hR (.lift hR _) fun _ => .lift hR _

theorem layerStore (h : QuietInvariant R) (l : Layer) : Respects R l.store :=
  .bind h.toComposes (.router h.toComposes _) fun _ => .pure h.toComposes _

theorem count (h : QuietInvariant R) (l : Layer) (hn : Respects R next) :
    Respects R (l.count next) := by
  have hR := h.toComposes
  refine .bind hR (h.expectStore l _ _) fun _ => .bind hR (h.layerStore l) fun _ => ?_
  dsimp only
  split
  · exact .fail hR _
  · refine .bind hR (h.expectStore l _ _) fun _ => .bind hR (.modify fun w => ?_) fun _ => hn
    exact h.store w _ _

theorem trace (h : QuietInvariant R) (l : Layer) (hn : Respects R next) :
    Respects R (l.trace next) := by
  have hR := h.toComposes
  have hrecord : ∀ e, Respects R (record e) := fun e => .modify fun w => h.event w e
  exact .bind hR (hrecord _) fun _ => .bind hR hn fun _ => .bind hR (hrecord _) fun _ => .pure hR _

theorem gate (h : QuietInvariant R) (l : Layer) (hn : Respects R next) :
    Respects R (l.gate next) := by
  have hR := h.toComposes
  refine .bind hR (h.layerStore l) fun _ => ?_
  split
  · exact .pure hR _
  · exact .pure hR _
  · exact .fail hR _
  · exact hn

theorem call (h : QuietInvariant R) (l : Layer) (hn : Respects R next)
    (hlog : l.plugin.pluginClass.hook = .log → Respects R (l.log next)) :
    Respects R (l.call next) := by
  have hR := h.toComposes
  have hwrap : Respects R (l.wrap next) := by
    unfold Layer.wrap
    split
    · exact hn
    · exact hn
    · exact h.count l hn
    · exact h.trace l hn
    · exact h.gate l hn
    · next logs => exact hlog logs
  exact .bind hR (h.expectStore l _ _) fun _ => .bind hR (h.layerStore l) fun _ => .ite hwrap hn

theorem throughSilent (h : QuietInvariant R) (r : RouterRef) {e : Entry}
    (silent : ∀ p ∈ e.layers, p.pluginClass.hook ≠ .log) (hn : Respects R next) :
    Respects R (throughLayers r e next) := by
  unfold throughLayers
  generalize e.layers = layers at silent
  induction layers with
  | nil => exact hn
  | cons p layers ih =>
    have deeper := ih fun q mem => silent q (List.mem_cons_of_mem p mem)
    exact h.call _ deeper fun logs => absurd logs (silent p List.mem_cons_self)

theorem capture (h : QuietInvariant R) (p : Pattern) : Respects R (capture p c) := by
  have hR := h.toComposes
  exact .bind hR (.context hR c) fun _ => .bind hR (.lift hR _) fun _ => .pure hR _

theorem debug (h : QuietInvariant R) (r : RouterRef) (text : String) :
    Respects R (debug r text) :=
  .bind h.toComposes (.router h.toComposes r) fun _ => .modify fun w => h.debugLine w _

theorem basePath (h : QuietInvariant R) (base : Option String) : Respects R (basePath base c) := by
  have hR := h.toComposes
  cases base with
  | some base => exact .pure hR _
  | none => exact .bind hR (.context hR c) fun _ => .bind hR (.lift hR _) fun _ => .lift hR _

end QuietInvariant

namespace SideInvariant

variable {R : World → Course → World → Prop} {next : Exec Value}

theorem logLine (h : SideInvariant R) (sink : Sink) (text : String) :
    Respects R (logLine sink text) :=
  .modify fun w => h.line w _

theorem emit (h : SideInvariant R) (l : Layer) (router : Value) (s : Layer.LogSettings)
    (wanted : Bool) (text : String) : Respects R (l.emit router s wanted text) := by
  have hR := h.toComposes
  refine .ite (.bind hR (.lift hR _) fun sink => ?_) (.pure hR _)
  cases sink with
  | none => exact .pure hR _
  | some sink => exact h.logLine sink _

theorem report (h : SideInvariant R) (l : Layer) (router : Value) (s : Layer.LogSettings)
    (hn : Respects R next) : Respects R (l.report router s next) := by
  have hR := h.toComposes
  refine .bind hR (h.emit l _ _ _ _) fun _ => .bind hR hn.attempt fun result => ?_
  cases result with
  | ok v => exact .bind hR (h.emit l _ _ _ _) fun _ => .pure hR _
  | error f => exact .bind hR (h.emit l _ _ _ _) fun _ => .fail hR _

theorem log (h : SideInvariant R) (l : Layer) (hn : Respects R next) :
    Respects R (l.log next) :=
  .bind h.toComposes (.router h.toComposes _) fun _ => .ite (h.report l _ _ hn) hn

theorem layer (h : SideInvariant R) (l : Layer) (hn : Respects R next) :
    Respects R (l.call next) :=
  h.call l hn fun _ => h.log l hn

theorem throughLayers (h : SideInvariant R) (r : RouterRef) (e : Entry)
    (hn : Respects R next) : Respects R (throughLayers r e next) := by
  unfold Dispatch.throughLayers
  induction e.layers with
  | nil => exact hn
  | cons p layers ih => exact h.layer _ ih

end SideInvariant

namespace ContextInvariant

variable {c : ContextRef} {R : World → Course → World → Prop}

theorem changeContext (h : ContextInvariant c R) {f : Context → Context}
    (hf : ∀ ctx, (f ctx).failure = ctx.failure) : Respects R (changeContext c f) :=
  .modify fun w => h.context w _ (hf _)

theorem offerMethod (h : ContextInvariant c R) (v : Value) : Respects R (offerMethod c v) := by
  intro w
  have hR := h.toComposes
  cases hv : (w.context c).offerMethod v with
  | error f => simpa [Exec.offerMethod, bind_apply, Exec.lift, hv] using hR.done w
  | ok ctx =>
    obtain ⟨methods, rfl⟩ := Context.eq_of_offerMethod hv
    simpa [Exec.offerMethod, bind_apply, Exec.lift, hv] using
      h.context w { w.context c with methods } rfl

theorem handleConfigure (h : ContextInvariant c R) (base : Option String) :
    Respects R (handleConfigure base c) := by
  have hR := h.toComposes
  refine .bind hR (h.changeContext fun _ => rfl) fun _ => .bind hR (h.basePath base) fun base => ?_
  refine .bind hR (.context hR c) fun _ => .bind hR (.lift hR _) fun path => ?_
  split
  · exact .fail hR _
  · exact .bind hR (h.changeContext fun _ => rfl) fun _ => .pure hR _

end ContextInvariant

namespace CallInvariant

variable {calls : Calls} {c : ContextRef} {R : World → Course → World → Prop}
variable {inner : RouterRef → ContextRef → Exec Value}

theorem changeContext (h : CallInvariant calls c R) {f : Context → Context}
    (hf : ∀ ctx, (f ctx).failure = ctx.failure ∧ (f ctx).methods = ctx.methods) :
    Respects R (changeContext c f) :=
  .modify fun w => h.frame w _ (hf _).1 (hf _).2

theorem trigger (h : CallInvariant calls c R) (a : Action) : Respects R (trigger calls a c) :=
  .bind h.toComposes (h.resolve a) fun _ => h.action a _

theorem serve (h : CallInvariant calls c R) (a : Action) : Respects R (serve calls a c) :=
  .bind h.toComposes (h.trigger a) fun _ => .pure h.toComposes _

theorem handleRoute (h : CallInvariant calls c R) (p : Pattern) (a : Action) :
    Respects R (handleRoute calls p a c) := by
  have hR := h.toComposes
  refine .bind hR (h.capture p) fun captured => ?_
  cases captured with
  | none => exact .pure hR _
  | some captured => exact .bind hR (h.changeContext fun _ => ⟨rfl, rfl⟩) fun _ => h.serve a

theorem handleMount (h : CallInvariant calls c R) (p : Pattern) (child : RouterRef)
    (hinner : ∀ r, Respects R (inner r c)) : Respects R (handleMount inner p child c) := by
  have hR := h.toComposes
  refine .bind hR (.context hR c) fun before => .bind hR (.lift hR _) fun route => ?_
  split
  · exact .pure hR _
  · refine .bind hR (h.changeContext fun _ => ⟨rfl, rfl⟩) fun _ => ?_
    exact .finishing hR (hinner child) fun answer w =>
      h.frame w _ (failure_leaveMount before answer _) (methods_leaveMount before answer _)

theorem through (h : CallInvariant calls c R) (r : RouterRef) (name : String) {own : Exec Value}
    (ho : Respects R own) : Respects R (through calls r name c own) :=
  through_respects h.toComposes (h.override r name) ho

end CallInvariant

namespace RunInvariant

variable {calls : Calls} {c : ContextRef} {R : World → Course → World → Prop} {depth : Nat}

theorem firstMatch (hR : Composes R) {call : Nat → Exec Value} (hcall : ∀ i, Respects R (call i))
    (l : List Nat) : Respects R (firstMatch call l) := by
  induction l with
  | nil => exact .pure hR _
  | cons i l ih => exact .bind hR (hcall i) fun _ => .ite (.pure hR _) ih

theorem firstMatchOr (hR : Composes R) {call : Nat → Exec Value} (hcall : ∀ i, Respects R (call i))
    {recover : Nat → Failure → Exec Bool} (hrecover : ∀ i f, Respects R (recover i f))
    (l : List Nat) : Respects R (firstMatchOr recover call l) := by
  induction l with
  | nil => exact .pure hR _
  | cons i l ih =>
    refine .bind hR (hcall i).attempt fun answer => ?_
    cases answer with
    | ok v => exact .ite (.pure hR _) ih
    | error f => exact hrecover i f

theorem debug (h : RunInvariant calls c R) (r : RouterRef) (text : String) :
    Respects R (debug r text) :=
  .bind h.toComposes (.router h.toComposes r) fun _ => .modify fun w => h.debugLine w _

theorem facing (h : RunInvariant calls c R)
    (hinner : ∀ r, Respects R (Dispatch.run calls depth r c)) (r : RouterRef) (f : Failure) :
    Respects R (facing f c (tryErrorHandlers calls (Dispatch.run calls depth) r c f)) := by
  intro w
  rw [facing_apply]
  refine h.recovery w r f _ _ _ ?_
  exact Respects.map h.toComposes Value.bool
    (firstMatch h.toComposes (h.callEntry depth hinner r true) _) _

theorem recover (h : RunInvariant calls c R)
    (hinner : ∀ r, Respects R (Dispatch.run calls depth r c)) (r : RouterRef) (i : Nat)
    (f : Failure) : Respects R (recover calls (Dispatch.run calls depth) r c i f) := by
  have hR := h.toComposes
  refine .bind hR (.router hR r) fun _ => .bind hR (.lift hR _) fun _ => ?_
  refine .bind hR (.router hR r) fun _ => .bind hR (h.debug r _) fun _ => ?_
  refine .bind hR (h.facing hinner r f) fun answer => .ite (.pure hR _) ?_
  exact .bind hR (h.debug r _) fun _ => .fail hR f

/-- A relation that holds of each call of an entry and of the stages around them holds of every
run. -/
theorem respects_run (h : RunInvariant calls c R) (depth : Nat) (r : RouterRef) :
    Respects R (Dispatch.run calls depth r c) := by
  have hR := h.toComposes
  induction depth generalizing r with
  | zero => exact .stop hR _
  | succ depth ih =>
    have hlevel : Respects R (runLevel calls (Dispatch.run calls depth) r c) :=
      .bind hR (.router hR r) fun _ =>
        firstMatchOr hR (h.callEntry depth ih r false) (fun i f => h.recover ih r i f) _
    intro w
    exact h.run w r _ _ _ (through_respects hR (h.override r "run") (.map hR _ hlevel) w)

end RunInvariant

namespace WalkInvariant

variable {calls : Calls} {c : ContextRef} {R : World → Course → World → Prop} {depth : Nat}

theorem callEntry (h : WalkInvariant calls c R)
    (hinner : ∀ r, Respects R (Dispatch.run calls depth r c)) (r : RouterRef) (error : Bool)
    (i : Nat) : Respects R (callEntry calls (Dispatch.run calls depth) r error c i) := by
  have hR := h.toComposes
  intro w
  refine h.entry depth r error i w _ rfl (Respects.bind hR (.router hR r) (fun target => ?_) w)
  split
  · exact .pure hR _
  · exact h.throughLayers r _ (h.handle _ hinner _)

theorem toRun (h : WalkInvariant calls c R) : RunInvariant calls c R where
  toComposes := h.toComposes
  debugLine := h.debugLine
  override := h.override
  run := h.run
  callEntry _ hinner := h.callEntry hinner
  recovery := h.recovery

/-- A relation that holds of each handler and of the stages around them holds of every run. -/
theorem respects_run (h : WalkInvariant calls c R) (depth : Nat) (r : RouterRef) :
    Respects R (Dispatch.run calls depth r c) :=
  h.toRun.respects_run depth r

end WalkInvariant

namespace HandlerInvariant

variable {calls : Calls} {c : ContextRef} {R : World → Course → World → Prop}
variable {inner : RouterRef → ContextRef → Exec Value}

theorem toCall (h : HandlerInvariant calls c R) : CallInvariant calls c R where
  toQuietInvariant := h.toQuietInvariant
  frame w ctx hf _ := h.context w ctx hf
  action := h.action
  predicate := h.predicate
  override := h.override

theorem handleEndpoint (h : HandlerInvariant calls c R) (method : String) (p : Pattern)
    (a : Action) : Respects R (handleEndpoint calls method p a c) := by
  have hR := h.toComposes
  refine .bind hR (h.capture p) fun captured => ?_
  cases captured with
  | none => exact .pure hR _
  | some captured =>
    refine .bind hR (.context hR c) fun _ => .bind hR (.lift hR _) fun _ => .ite ?_ ?_
    · exact .bind hR (h.changeContext fun _ => rfl) fun _ => h.toCall.serve a
    · exact .bind hR (h.offerMethod _) fun _ => .pure hR _

theorem handle (h : HandlerInvariant calls c R) (hinner : ∀ r, Respects R (inner r c))
    (a : Handler) : Respects R (handle calls inner a c) := by
  have hR := h.toComposes
  have staged : ∀ {x : Exec Value}, Respects R x → Respects R (within (.handler a) x) :=
    fun hx w => h.handler w a _ _ _ (hx w)
  cases a with
  | callback a => exact staged (.bind hR (h.toCall.trigger a) fun _ => .pure hR _)
  | always a => exact staged (h.toCall.serve a)
  | badMethod a =>
    exact staged (.bind hR (.context hR c) fun _ => .ite (h.toCall.serve a) (.pure hR _))
  | conditional p a =>
    exact staged (.bind hR (h.predicate p) fun _ => .ite (h.toCall.serve a) (.pure hR _))
  | route p a => exact staged (h.toCall.handleRoute p a)
  | endpoint method p a => exact staged (h.handleEndpoint method p a)
  | setNamespace nameSpace =>
    exact staged (.bind hR (h.changeContext fun _ => rfl) fun _ => .pure hR _)
  | mount p child => exact staged (h.toCall.handleMount p child hinner)
  | configure base => exact staged (h.handleConfigure base)
  | router r => exact staged (h.toCall.through r _ (hinner r))
  | custom kind result => exact staged (.pure hR _)

end HandlerInvariant

namespace Invariant

variable {calls : Calls} {c : ContextRef} {R : World → Course → World → Prop}

theorem toWalk (h : Invariant calls c R) : WalkInvariant calls c R where
  toCallInvariant := h.toCall
  line := h.line
  run := h.run
  entry := h.entry
  handle _ hinner a := h.handle hinner a
  recovery := h.recovery

/-- A relation that holds of each step and each stage of a run holds of every run. -/
theorem respects_run (h : Invariant calls c R) (depth : Nat) (r : RouterRef) :
    Respects R (Dispatch.run calls depth r c) :=
  h.toWalk.respects_run depth r

end Invariant
end Dispatch
end HandlerChains
