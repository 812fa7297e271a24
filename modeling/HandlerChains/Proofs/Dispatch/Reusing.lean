import HandlerChains.Proofs.Dispatch.Configuring
import HandlerChains.Proofs.Dispatch.Unlogged

/-!
# Contexts that are used again

Whatever commands are performed on an application, its handlers begin with the one that turns paths
into routes. Before it looks at anything, that one forgets the route and the offered methods of a
context. So what an earlier run left there makes no difference to a run: it ends alike, leaves the
same world, and calls the same actions in the same worlds, also if the first handler fails.
-/

namespace HandlerChains

/-- Two executions end alike, leave the same world, and make the same calls in the same worlds. -/
structure Ended.Agrees {α : Type} (e e' : Ended α) : Prop where
  result : e'.result = e.result
  world : e'.world = e.world
  calls : e'.course.calls = e.course.calls

/-- The worlds that commands make of a first one, one after another and however each ends. Actions
perform commands inside each other to any depth. -/
inductive World.Performed (w : World) : World → Prop
  | start : Performed w w
  | command {v : World} (before : Performed w v) (depth : Nat) (command : Command) :
      Performed w (Exec.perform (Exec.callsWithin depth) command v).world

theorem World.Performed.grows {w v : World} (performed : w.Performed v) : w.Grows v := by
  induction performed with
  | start => exact .refl w
  | command before depth command ih =>
    exact ih.trans (Exec.Growth.commands.perform (Exec.Growth.commands.callsWithin depth) command _)

/-- A world in which a context has been used before. -/
def World.reusing (w : World) (c : ContextRef) (route methods : Value) : World :=
  w.setContext c { w.context c with route, methods }

theorem Ended.Agrees.of_eq {α : Type} {e e' : Ended α} (eq : e' = e) : e.Agrees e' :=
  ⟨by rw [eq], by rw [eq], by rw [eq]⟩

namespace Exec

variable {α β : Type} {w v : World}

theorem bind_agrees {x : Exec α} (agrees : (x w).Agrees (x v)) (f : α → Exec β) :
    ((x >>= f) w).Agrees ((x >>= f) v) := by
  rw [bind_apply, bind_apply]
  generalize x w = e at agrees
  generalize x v = e' at agrees
  obtain ⟨course, ended, after⟩ := e
  obtain ⟨course', ended', after'⟩ := e'
  obtain ⟨result, world, calls⟩ := agrees
  cases result
  cases world
  cases ended with
  | error s => exact ⟨rfl, rfl, calls⟩
  | ok a =>
    have calls : course'.calls = course.calls := calls
    exact ⟨rfl, rfl, by simp [calls]⟩

theorem attempt_agrees {x : Exec α} (agrees : (x w).Agrees (x v)) :
    (attempt x w).Agrees (attempt x v) := by
  refine ⟨?_, by simpa using agrees.world, by simpa using agrees.calls⟩
  have result := agrees.result
  unfold attempt
  rcases first : x w with ⟨course, ended, after⟩
  rcases second : x v with ⟨course', ended', after'⟩
  rw [first, second] at result
  obtain rfl : ended' = ended := result
  rcases ended' with (f | name | _) | a <;> try rfl
  by_cases ordinary : f.isOrdinary = true <;> simp [ordinary]

theorem within_agrees {s : Stage} (silent : s.isCall = false) {x : Exec Value}
    (agrees : (x w).Agrees (x v)) : (within s x w).Agrees (within s x v) := by
  obtain ⟨result, world, calls⟩ := agrees
  exact ⟨result, world, by simpa [Course.calls, silent] using calls⟩

end Exec

/-! ## The first handler -/

namespace Dispatch

open Exec World

variable {calls : Calls} {inner : RouterRef → ContextRef → Exec Value} {c : ContextRef}
variable {r : RouterRef} {w : World} {base? : Option String}

theorem Logs.agrees {around : Exec Value → Exec Value} {v : World} (logs : Logs around w)
    (routers : v.routers = w.routers) {call : Exec Value}
    (inside : ∀ lines, (call (w.logLines lines)).Agrees (call (v.logLines lines))) :
    (around call w).Agrees (around call v) := by
  obtain ⟨before, after, -, -, eq⟩ := logs
  obtain ⟨result, world, calls⟩ := inside before
  rw [eq call w rfl, eq call v routers]
  exact ⟨result, by simp [result, world], calls⟩

/-- The first handler forgets what it does not set. -/
theorem handleConfigure_reusing (base? : Option String) (c : ContextRef) (w : World)
    (route methods : Value) :
    handleConfigure base? c (w.reusing c route methods) = handleConfigure base? c w := by
  simp only [handleConfigure, World.reusing, bind_apply, changeContext_apply, Ended.andThen_ok,
    context_setContext_self, setContext_setContext]

theorem callEntry_reusing {e : Entry} {rest : List Entry}
    (first : (w.router r).handlers = e :: rest) (handler : e.handler = .configure base?)
    (logging : (w.router r).OnlyLogs e) (route methods : Value) :
    (callEntry calls inner r false c 0 w).Agrees
      (callEntry calls inner r false c 0 (w.reusing c route methods)) := by
  rw [callEntry_configure first handler,
    callEntry_configure (w := w.reusing c route methods) first handler]
  have routers : (w.reusing c route methods).routers = w.routers := rfl
  refine within_agrees rfl ((throughLayers_logs logging).agrees routers fun lines => ?_)
  refine within_agrees rfl (.of_eq ?_)
  exact handleConfigure_reusing base? c (w.logLines lines) route methods

theorem firstMatchOr_reusing {call : Nat → Exec Value} {i : Nat} {v : World}
    (agrees : (call i w).Agrees (call i v)) (recover : Nat → Failure → Exec Bool)
    (rest : List Nat) :
    (firstMatchOr recover call (i :: rest) w).Agrees (firstMatchOr recover call (i :: rest) v) :=
  bind_agrees (attempt_agrees agrees) _

/-- A run that begins with a handler that turns paths into routes makes no difference between
contexts that differ in what was left of another run. -/
theorem run_reusing {e : Entry} {rest : List Entry} (own : (w.router r).IsOwn "run")
    (first : (w.router r).handlers = e :: rest) (handler : e.handler = .configure base?)
    (logging : (w.router r).OnlyLogs e) (depth : Nat)
    (route methods : Value) :
    (run calls (depth + 1) r c w).Agrees
      (run calls (depth + 1) r c (w.reusing c route methods)) := by
  have nonempty : (w.router r).handlers ≠ [] := by simp [first]
  have begins : (callEntry calls (run calls depth) r false c 0 w).Agrees
      (callEntry calls (run calls depth) r false c 0 (w.reusing c route methods)) :=
    callEntry_reusing first handler logging route methods
  have same : (w.reusing c route methods).router r = w.router r := rfl
  obtain ⟨result, world, called⟩ := firstMatchOr_reusing begins
    (recover calls (run calls depth) r c) (List.range' 1 ((w.router r).handlers.length - 1))
  rw [run_starts own nonempty, run_starts (w := w.reusing c route methods) own nonempty, same]
  exact ⟨congrArg (Except.map Value.bool) result, world,
    by simpa [Course.calls, Stage.isCall] using called⟩

/-- After any commands, and whatever came of them, the handlers of an application begin with the one
that turns paths into routes. If there is nothing around it but layers that log, then a run ends
alike, leaves the same world and makes the same calls for any two contexts that differ in the route
and the offered methods only, whatever actions do. -/
theorem run_application_reusing {id className : String} {name description : Value}
    {given : Option Value} {cls : RouterClass} {w₀ w : World}
    (known : Assoc.get? w₀.classes className = some cls) (application : cls.tier = .application)
    (made : (makeRouter id className name description given w₀).result = .ok ())
    (performed : (makeRouter id className name description given w₀).world.Performed w) :
    let r := w₀.routers.length
    (∃ base? e rest, ConfiguredBase (given.getD .null) base? ∧
      (w.router r).handlers = e :: rest ∧ e.handler = .configure base?) ∧
    ((w.router r).IsOwn "run" →
      (∀ e ∈ (w.router r).handlers.head?, (w.router r).OnlyLogs e) →
      ∀ (calls : Calls) (c : ContextRef) (route methods : Value),
        (runRouter calls r c w).Agrees (runRouter calls r c (w.reusing c route methods))) := by
  intro r
  obtain ⟨base?, e, rest, configured, first, handler⟩ :=
    makeRouter_begins known application made performed.grows
  refine ⟨⟨base?, e, rest, configured, first, handler⟩, fun own logging calls c route methods => ?_⟩
  have logging : (w.router r).OnlyLogs e := logging e (by rw [first]; rfl)
  exact run_reusing own first handler logging (w.routers.length + 999) route methods

def plugLogging : Command := .plug "blog" (.text loggingName) [] none

/-- An action is registered under the name of the first handler, which is refused. -/
def takeName : Command :=
  .register "blog" (.mk (.action .callback (.function "f" [] .null))
    [("name", .text "configure")] false)

def loggedBlog : World :=
  (perform (callsWithin 1) takeName
    (perform (callsWithin 1) plugLogging (makeBlog posting).world).world).world

theorem loggedBlog_layers :
    (loggedBlog.router 0).handlers.map Entry.layers = [[⟨.logging, .standard⟩]] := by
  with_unfolding_all rfl

theorem loggedBlog_overrides : (loggedBlog.router 0).overrides = [] := by with_unfolding_all rfl

theorem run_loggedBlog_reusing :
    (makeBlog posting).result = .ok () ∧ (makeBlog posting).world.Performed loggedBlog ∧
      (loggedBlog.router 0).IsOwn "run" ∧
      (loggedBlog.router 0).handlers.map Entry.layers = [[⟨.logging, .standard⟩]] ∧
      (runRouter Small.calls 0 0 loggedBlog).Agrees
        (runRouter Small.calls 0 0 (loggedBlog.reusing 0 (.text "old") (.list [.text "GET"]))) := by
  have made : (makeBlog posting).result = .ok () := by with_unfolding_all rfl
  have performed : (makeBlog posting).world.Performed loggedBlog :=
    .command (.command .start 1 plugLogging) 1 takeName
  have own : ∀ place, (loggedBlog.router 0).IsOwn place := fun place => by
    rw [Router.IsOwn, loggedBlog_overrides]
    rfl
  obtain ⟨-, agrees⟩ := run_application_reusing rfl rfl made performed
  refine ⟨made, performed, own "run", loggedBlog_layers, agrees (own "run") ?_ _ _ _ _⟩
  intro e first p mem
  have around : e.layers ∈ (loggedBlog.router 0).handlers.map Entry.layers :=
    List.mem_map_of_mem (List.mem_of_mem_head? first)
  rw [loggedBlog_layers, List.mem_singleton] at around
  obtain rfl : p = ⟨.logging, .standard⟩ := by simpa [around] using mem
  have logs : (⟨.logging, .standard⟩ : Plugin).logs = true := rfl
  have usable : ∀ kind, Logger.standard ≠ .unusable kind := fun kind => Logger.noConfusion
  refine ⟨logs, ?_⟩
  rw [Router.TakesLayer, if_pos logs]
  exact ⟨usable, own _, own _⟩

end Dispatch
end HandlerChains
