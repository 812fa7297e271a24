import HandlerChains.Proofs.Apart
import HandlerChains.Proofs.Dispatch.Completion
import HandlerChains.Proofs.Plugin.Logging

/-!
# Executions that mirror each other

An execution among routers with plugins that log, and one among the same routers without them: step
by step they read the same of contexts and of other plugins' stores, call the same actions and
predicates, and end alike. What is called must not look at routers or the log by itself. The worlds
differ in lines of the log, none of which is for debugging.
-/

namespace HandlerChains

def Uptake.callable? : Uptake → Option Callable
  | action f => some f
  | keeping _ _ _ without => without.callable?
  | answer _ | failure _ => none

namespace Passage

/-- What a stage called: what its action was resolved to in the world in which it began, its
predicate, or the method in the place of what routers do by themselves. -/
inductive Made (calls : Calls) (c : ContextRef) (p : Passage) : Exec Value → Prop
  | action {a : Action} {v : World} {course : Course} {found : Resolved} {f : Callable}
      (stage : p.stage = .action a) (resolved : Exec.resolve c a v = ⟨course, .ok found, p.before⟩)
      (leads : found.uptake.callable? = some f) : Made calls c p (calls.act f c)
  | predicate {q : Predicate} (stage : p.stage = .predicate q) : Made calls c p (calls.ask q c)
  | override {r : RouterRef} {name : String} {f : Callable} (stage : p.stage = .override r name)
      (place : Assoc.get? (p.before.router r).overrides name = some (.method f)) :
      Made calls c p (calls.act f c)

/-- Whether what a stage called has nothing to do with routers and the log. -/
def IsApart (calls : Calls) (c : ContextRef) (p : Passage) : Prop :=
  ∀ x, Made calls c p x → x.Apart

variable {calls : Calls} {c : ContextRef} {p : Passage}

theorem isApart_of_callable {f : Callable} (stage : p.stage = .action (.callable f))
    (h : (calls.act f c).Apart) : p.IsApart calls c := by
  rintro x (⟨named, resolved, leads⟩ | named | ⟨named, -⟩)
  · cases stage.symm.trans named
    cases resolved
    cases leads
    exact h
  · cases stage.symm.trans named
  · cases stage.symm.trans named

theorem isApart_of_predicate {q : Predicate} (stage : p.stage = .predicate q)
    (h : (calls.ask q c).Apart) : p.IsApart calls c := by
  rintro x (⟨named, -, -⟩ | named | ⟨named, -⟩)
  · cases stage.symm.trans named
  · cases stage.symm.trans named
    exact h
  · cases stage.symm.trans named

end Passage

/-- What is seen of a call by those who wrote what is called: what it was, how it ended, and the
context before and after it. -/
structure Sight where
  stage : Stage
  before : Context
  ending : Except Stop Value
  after : Context

namespace Course

def sights (c : ContextRef) (t : Course) : List Sight :=
  t.calls.map fun (p, _) => ⟨p.stage, p.before.context c, p.ending, p.after.context c⟩

@[simp] theorem sights_done (c : ContextRef) : sights c .done = [] := rfl

@[simp] theorem sights_append (c : ContextRef) (s t : Course) :
    sights c (s ++ t) = sights c s ++ sights c t := by
  simp [sights]

end Course

namespace World

def debugLines (w : World) : List LogLine := w.log.filter fun l => l.sink = .debug

/-- Two worlds on the way from a first one, of which the second one has no plugins that log. -/
structure Mirrored (start w v : World) : Prop where
  rest : v = w.among v.routers v.log
  kept : ∀ r, ∃ store, w.router r = { start.router r with store }
  routers : ∀ r, v.router r = (w.router r).withoutLogging
  debug : v.debugLines = w.debugLines
  fewer : v.log.Sublist w.log

namespace Mirrored

variable {start w w' v : World}

theorem eq_among (h : start.Mirrored w v) : ∃ routers log, v = w.among routers log := ⟨_, _, h.rest⟩

theorem context_eq (h : start.Mirrored w v) (c : ContextRef) : v.context c = w.context c := by
  rw [h.rest]
  rfl

theorem record (h : start.Mirrored w v) (e : Event) : start.Mirrored (w.record e) (v.record e) where
  rest := by
    obtain ⟨routers, log, rfl⟩ := h.eq_among
    rfl
  kept := h.kept
  routers := h.routers
  debug := h.debug
  fewer := h.fewer

theorem setContext (h : start.Mirrored w v) (c : ContextRef) (ctx : Context) :
    start.Mirrored (w.setContext c ctx) (v.setContext c ctx) where
  rest := by
    obtain ⟨routers, log, rfl⟩ := h.eq_among
    rfl
  kept := h.kept
  routers := h.routers
  debug := h.debug
  fewer := h.fewer

theorem logLine (h : start.Mirrored w v) (l : LogLine) :
    start.Mirrored (w.logLine l) (v.logLine l) where
  rest := by
    obtain ⟨routers, log, rfl⟩ := h.eq_among
    rfl
  kept := h.kept
  routers := h.routers
  debug := by
    have debug := h.debug
    simp only [debugLines] at debug
    simp only [debugLines, World.logLine, List.filter_append, debug]
  fewer := h.fewer.append (.refl _)

theorem logged (h : start.Mirrored w v) (logs : Logged w w') : start.Mirrored w' v := by
  obtain ⟨lines, shown, rfl⟩ := logs
  refine ⟨?_, h.kept, h.routers, ?_, h.fewer.trans (List.sublist_append_left ..)⟩
  · exact h.rest
  · have none : lines.filter (fun l => decide (l.sink = .debug)) = [] := by
      simpa [List.filter_eq_nil_iff] using shown
    rw [h.debug, debugLines, debugLines, List.filter_append, none, List.append_nil]

theorem setStore (h : start.Mirrored w v) (r : RouterRef) (store : PluginStore) :
    start.Mirrored (w.setRouter r { w.router r with store })
      (v.setRouter r { v.router r with store := store.withoutLogging }) where
  rest := by
    obtain ⟨routers, log, rfl⟩ := h.eq_among
    rfl
  kept s := by
    rw [router_setRouter]
    split
    · next here =>
      obtain ⟨store', kept⟩ := h.kept r
      exact ⟨store, by rw [kept, here]⟩
    · exact h.kept s
  routers s := by
    rw [router_setRouter, router_setRouter]
    split
    · rw [h.routers]
      rfl
    · exact h.routers s
  debug := h.debug
  fewer := h.fewer

/-- What has nothing to do with routers and the log does the same on both sides. -/
theorem apart {α : Type} {x : Exec α} (h : start.Mirrored w v) (hx : x.Apart) :
    (x v).result = (x w).result ∧ start.Mirrored (x w).world (x v).world := by
  obtain ⟨result, world⟩ := hx w v.routers v.log
  rw [← h.rest] at result world
  have unchanged := hx.unchanged w
  refine ⟨result, ?_⟩
  rw [world]
  rw [unchanged]
  exact ⟨rfl, h.kept, h.routers, h.debug, h.fewer⟩

end Mirrored
end World

namespace Dispatch

open Exec World

/-- Two executions that ended alike after the same calls. -/
structure Mirror {α : Type} (start : World) (c : ContextRef) (e e' : Ended α) : Prop where
  result : e'.result = e.result
  worlds : start.Mirrored e.world e'.world
  sights : e'.course.sights c = e.course.sights c

theorem Mirror.within {start w v : World} {c : ContextRef} {x : Exec Value} {s : Stage}
    (isCall : s.isCall = true) (mirrored : start.Mirrored w v) (hx : x.Apart) :
    Mirror start c (within s x w) (within s x v) := by
  obtain ⟨result, worlds⟩ := mirrored.apart hx
  refine ⟨result, worlds, ?_⟩
  simp [Course.sights, Course.calls, isCall, result, mirrored.context_eq, worlds.context_eq]

/-- Two executions that end alike after the same calls in worlds of which the second one has no
plugins that log, if what is called in the first one has nothing to do with routers and the log. -/
def Mirrors {α : Type} (start : World) (calls : Calls) (c : ContextRef) (x y : Exec α) : Prop :=
  ∀ w v, start.Mirrored w v → (∀ p ∈ (x w).course.calls, p.1.IsApart calls c) →
    Mirror start c (x w) (y v)

namespace Mirrors

variable {start : World} {calls : Calls} {c : ContextRef} {α β : Type}

theorem pure (a : α) : Mirrors start calls c (Pure.pure a) (Pure.pure a) :=
  fun _ _ h _ => ⟨rfl, h, rfl⟩

theorem stop (s : Stop) : Mirrors start calls c (Exec.stop s : Exec α) (Exec.stop s) :=
  fun _ _ h _ => ⟨rfl, h, rfl⟩

theorem fail (f : Failure) : Mirrors start calls c (Exec.fail f : Exec α) (Exec.fail f) := stop _

theorem lift (x : Except Failure α) : Mirrors start calls c (Exec.lift x) (Exec.lift x) := by
  cases x with
  | ok a => exact pure a
  | error f => exact fail f

theorem bind {x y : Exec α} {f g : α → Exec β} (h : Mirrors start calls c x y)
    (hf : ∀ a, Mirrors start calls c (f a) (g a)) : Mirrors start calls c (x >>= f) (y >>= g) := by
  intro w v mirrored apart
  have first := h w v mirrored
  rw [bind_apply] at apart ⊢
  rw [bind_apply]
  rcases hx : x w with ⟨course, s | a, w'⟩
  all_goals
    rcases hy : y v with ⟨course', result', v'⟩
    rw [hx] at apart
    rw [hx, hy] at first
  · obtain ⟨rfl, worlds, sights⟩ := first apart
    exact ⟨rfl, worlds, sights⟩
  · simp only [Ended.andThen_ok, Course.calls_append, List.forall_mem_append] at apart
    obtain ⟨rfl, worlds, sights⟩ := first apart.1
    have next := hf a w' v' worlds apart.2
    exact ⟨next.result, next.worlds, by
      rw [Ended.andThen_ok, Ended.andThen_ok, Course.sights_append, Course.sights_append,
        next.sights, sights]⟩

theorem map (f : α → β) {x y : Exec α} (h : Mirrors start calls c x y) :
    Mirrors start calls c (f <$> x) (f <$> y) :=
  bind h fun _ => pure _

theorem ite {p : Prop} [Decidable p] {x x' y y' : Exec α} (h : Mirrors start calls c x x')
    (h' : Mirrors start calls c y y') :
    Mirrors start calls c (if p then x else y) (if p then x' else y') := by
  split
  · exact h
  · exact h'

theorem within {x y : Exec Value} {s : Stage} (h : Mirrors start calls c x y)
    (inside : s.isCall = false) : Mirrors start calls c (within s x) (within s y) := by
  intro w v mirrored apart
  have course : ∀ z : Exec Value, ∀ u, (Exec.within s z u).course.calls = (z u).course.calls := by
    intro z u
    simp [Course.calls, inside]
  rw [course] at apart
  have first := h w v mirrored apart
  refine ⟨first.result, first.worlds, ?_⟩
  rw [Course.sights, Course.sights, course, course]
  exact first.sights

theorem attempt {x y : Exec α} (h : Mirrors start calls c x y) :
    Mirrors start calls c (attempt x) (attempt y) := by
  intro w v mirrored apart
  rw [attempt_course] at apart
  have first := h w v mirrored apart
  refine ⟨?_, by simpa using first.worlds, by simpa using first.sights⟩
  have result := first.result
  unfold Exec.attempt
  generalize x w = e at result ⊢
  generalize y v = e' at result ⊢
  obtain ⟨course', _, v'⟩ := e'
  obtain ⟨course, (f | name | _) | a, w'⟩ := e
  all_goals cases result
  · by_cases ordinary : f.isOrdinary = true <;> simp [ordinary]
  · rfl
  · rfl
  · rfl

theorem finishing {x y : Exec α} {restore : Option α → World → World}
    (h : Mirrors start calls c x y)
    (restored : ∀ o w v, start.Mirrored w v → start.Mirrored (restore o w) (restore o v)) :
    Mirrors start calls c (finishing x restore) (finishing y restore) := by
  intro w v mirrored apart
  rw [finishing_apply] at apart ⊢
  rw [finishing_apply]
  have first := h w v mirrored apart
  refine ⟨first.result, ?_, first.sights⟩
  rw [first.result]
  exact restored _ _ _ first.worlds

theorem bind_router {f g : Router → Exec β} (r : RouterRef)
    (h : ∀ store, Mirrors start calls c (f { start.router r with store })
      (g { start.router r with store }.withoutLogging)) :
    Mirrors start calls c (Exec.router r >>= f) (Exec.router r >>= g) := by
  intro w v mirrored apart
  obtain ⟨store, kept⟩ := mirrored.kept r
  rw [bind_apply, router_apply, Ended.andThen_ok, kept] at apart ⊢
  rw [bind_apply, router_apply, Ended.andThen_ok, mirrored.routers, kept]
  exact h store w v mirrored apart

theorem context : Mirrors start calls c (Exec.context c) (Exec.context c) :=
  fun _ _ mirrored _ => ⟨congrArg Except.ok (mirrored.context_eq c), mirrored, rfl⟩

theorem changeContext (f : Context → Context) :
    Mirrors start calls c (Exec.changeContext c f) (Exec.changeContext c f) := by
  intro w v mirrored _
  refine ⟨rfl, ?_, rfl⟩
  rw [changeContext_apply, changeContext_apply, mirrored.context_eq]
  exact mirrored.setContext c _

theorem record (e : Event) : Mirrors start calls c (Exec.record e) (Exec.record e) :=
  fun _ _ mirrored _ => ⟨rfl, mirrored.record e, rfl⟩

theorem logLine (sink : Sink) (text : String) :
    Mirrors start calls c (Exec.logLine sink text) (Exec.logLine sink text) :=
  fun _ _ mirrored _ => ⟨rfl, mirrored.logLine _, rfl⟩

theorem offerMethod (method : Value) :
    Mirrors start calls c (Exec.offerMethod c method) (Exec.offerMethod c method) :=
  bind context fun _ => bind (lift _) fun _ => changeContext _

end Mirrors

end Dispatch
end HandlerChains
