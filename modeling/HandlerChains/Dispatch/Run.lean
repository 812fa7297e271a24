import HandlerChains.Dispatch.Handle
import HandlerChains.Dispatch.Layer

/-!
# Running a router

A run tries the handlers of a router in order until one matches. If one fails, the error handlers
are tried in its place, with the failure in the context; if none of them matches, the failure goes
on to whoever ran the router. Entries that are added meanwhile take no part: a chain is as long as
it was when its walk began.
-/

namespace HandlerChains
namespace Dispatch

open Exec

/-- Calls one entry after another until an answer is truthy. -/
def firstMatch (call : Nat → Exec Value) : List Nat → Exec Bool
  | [] => return false
  | i :: rest => do
    if (← call i).isTruthy then return true else firstMatch call rest

/-- As `firstMatch`, but the first ordinary failure is handed to `recover`. -/
def firstMatchOr (recover : Nat → Failure → Exec Bool) (call : Nat → Exec Value) :
    List Nat → Exec Bool
  | [] => return false
  | i :: rest => do
    match ← attempt (call i) with
    | .ok v => if v.isTruthy then return true else firstMatchOr recover call rest
    | .error f => recover i f

section

variable {recover : Nat → Failure → Exec Bool} {call : Nat → Exec Value} {i : Nat}
variable {w w' : World} {course : Course}

theorem firstMatch_declined {v : Value} (h : call i w = ⟨course, .ok v, w'⟩)
    (no : v.isTruthy = false) (rest : List Nat) :
    firstMatch call (i :: rest) w =
      ⟨course ++ (firstMatch call rest w').course, (firstMatch call rest w').result,
        (firstMatch call rest w').world⟩ := by
  simp [firstMatch, bind_apply, h, no]

theorem firstMatch_matched {v : Value} (h : call i w = ⟨course, .ok v, w'⟩)
    (yes : v.isTruthy = true) (rest : List Nat) :
    firstMatch call (i :: rest) w = ⟨course, .ok true, w'⟩ := by
  simp [firstMatch, bind_apply, h, yes]

theorem firstMatch_stopped {s : Stop} (h : call i w = ⟨course, .error s, w'⟩) (rest : List Nat) :
    firstMatch call (i :: rest) w = ⟨course, .error s, w'⟩ := by
  simp [firstMatch, bind_apply, h]

theorem firstMatchOr_declined {v : Value} (h : call i w = ⟨course, .ok v, w'⟩)
    (no : v.isTruthy = false) (rest : List Nat) :
    firstMatchOr recover call (i :: rest) w =
      ⟨course ++ (firstMatchOr recover call rest w').course,
        (firstMatchOr recover call rest w').result, (firstMatchOr recover call rest w').world⟩ := by
  simp [firstMatchOr, bind_apply, attempt_ok h, no]

theorem firstMatchOr_matched {v : Value} (h : call i w = ⟨course, .ok v, w'⟩)
    (yes : v.isTruthy = true) (rest : List Nat) :
    firstMatchOr recover call (i :: rest) w = ⟨course, .ok true, w'⟩ := by
  simp [firstMatchOr, bind_apply, attempt_ok h, yes]

theorem firstMatchOr_failed {f : Failure} (h : call i w = ⟨course, .error (.failed f), w'⟩)
    (hf : f.isOrdinary = true) (rest : List Nat) :
    firstMatchOr recover call (i :: rest) w =
      ⟨course ++ (recover i f w').course, (recover i f w').result, (recover i f w').world⟩ := by
  simp [firstMatchOr, bind_apply, attempt_failed h hf]

theorem firstMatchOr_stopped {s : Stop} (h : call i w = ⟨course, .error s, w'⟩)
    (hs : s.isOrdinary = false) (rest : List Nat) :
    firstMatchOr recover call (i :: rest) w = ⟨course, .error s, w'⟩ := by
  simp [firstMatchOr, bind_apply, attempt_stopped h hs]

end

variable (calls : Calls) (inner : RouterRef → ContextRef → Exec Value)

/-- Calls the entry at a place of a chain. -/
def callEntry (r : RouterRef) (error : Bool) (c : ContextRef) (i : Nat) : Exec Value :=
  within (.entry r error i) do
  match ((← router r).chain error)[i]? with
  | none => return .bool false
  | some e => throughLayers r e (handle calls inner e.handler c)

theorem callEntry_apply {r : RouterRef} {error : Bool} {i : Nat} {e : Entry} {w : World}
    (there : ((w.router r).chain error)[i]? = some e) (c : ContextRef) :
    callEntry calls inner r error c i w =
      within (.entry r error i) (throughLayers r e (handle calls inner e.handler c)) w := by
  simp [callEntry, bind_apply, there]

def debug (r : RouterRef) (text : String) : Exec Unit := do
  logLine .debug ("Router " ++ (← router r).name.literal ++ ": " ++ text)

theorem debug_apply (r : RouterRef) (text : String) (w : World) :
    debug r text w = ⟨.done, .ok (),
      w.logLine ⟨.debug, "Router " ++ (w.router r).name.literal ++ ": " ++ text⟩⟩ := rfl

/-- Does something while a context has a failure. However it ends, the context has the failure from
before again. -/
def facing (f : Failure) (c : ContextRef) (x : Exec Value) : Exec Value := do
  let before ← context c
  changeContext c fun ctx => { ctx with failure := some f }
  finishing x fun _ w => w.putFailure c before.failure

theorem facing_apply (f : Failure) (c : ContextRef) (x : Exec Value) (w : World) :
    facing f c x w =
      ⟨(x (w.putFailure c (some f))).course, (x (w.putFailure c (some f))).result,
        (x (w.putFailure c (some f))).world.putFailure c (w.context c).failure⟩ := by
  simp only [facing, bind_apply, context_apply, changeContext_apply, Ended.andThen_ok,
    finishing_apply, Course.done_append]
  rfl

/-- Tries the error handlers one after another, as one stage. -/
def tryErrorHandlers (r : RouterRef) (c : ContextRef) (f : Failure) : Exec Value := do
  let size := (← router r).errorHandlers.length
  within (.recovery r f)
    (.bool <$> firstMatch (callEntry calls inner r true c) (List.range size))

theorem tryErrorHandlers_apply (r : RouterRef) (c : ContextRef) (f : Failure) (w : World) :
    tryErrorHandlers calls inner r c f w =
      let e := firstMatch (callEntry calls inner r true c)
        (List.range (w.router r).errorHandlers.length) w
      ⟨.step ⟨.recovery r f, w, e.result.map .bool, e.world⟩ e.course .done,
        e.result.map .bool, e.world⟩ := by
  simp only [tryErrorHandlers, bind_apply, router_apply, Ended.andThen_ok, within_apply, map_apply,
    Course.done_append]

/-- Tries the error handlers on a failure, and goes on failing if none of them matches. -/
def recover (r : RouterRef) (c : ContextRef) (i : Nat) (f : Failure) : Exec Bool := do
  lift ((← router r).expect "_recover" (.several 3))
  let failed := (((← router r).handlers[i]?).map Entry.name).getD .null
  debug r ("handler " ++ failed.literal ++ " raised " ++ f.literal ++ ", running error handlers")
  if (← facing f c (tryErrorHandlers calls inner r c f)).isTruthy then return true
  else
    debug r ("failure " ++ f.literal ++ " not handled, re-raising")
    fail f

theorem recover_own {r : RouterRef} {w : World}
    (own : Assoc.get? (w.router r).overrides "_recover" = none) (c : ContextRef) (i : Nat)
    (f : Failure) :
    ∃ line, let before := (w.logLine line).putFailure c (some f)
      let e := firstMatch (callEntry calls inner r true c)
        (List.range (before.router r).errorHandlers.length) before
      (recover calls inner r c i f w).course =
          .step ⟨.recovery r f, before, e.result.map .bool, e.world⟩ e.course .done ∧
        (recover calls inner r c i f w).result =
          e.result.bind fun matched => if matched then .ok true else .error (.failed f) := by
  refine ⟨⟨.debug, "Router " ++ (w.router r).name.literal ++ ": " ++ ("handler " ++
    ((((w.router r).handlers[i]?).map Entry.name).getD .null).literal ++ " raised " ++ f.literal ++
    ", running error handlers")⟩, ?_⟩
  have lets : (w.router r).expect "_recover" (.several 3) = .ok () := by simp [Router.expect, own]
  simp only [recover, bind_apply, router_apply, Ended.andThen_ok, lets, Exec.lift, pure_apply,
    debug_apply, facing_apply, tryErrorHandlers_apply, Course.done_append]
  rcases firstMatch _ _ _ with ⟨course, s | matched, w'⟩
  · simp [Except.map, Except.bind]
  · cases matched <;> simp [Except.map, Except.bind, Value.isTruthy, bind_apply, debug_apply]

/-- One level of a run. -/
def runLevel (r : RouterRef) (c : ContextRef) : Exec Bool := do
  let size := (← router r).handlers.length
  firstMatchOr (recover calls inner r c) (callEntry calls inner r false c) (List.range size)

theorem runLevel_apply (r : RouterRef) (c : ContextRef) (w : World) :
    runLevel calls inner r c w =
      firstMatchOr (recover calls inner r c) (callEntry calls inner r false c)
        (List.range (w.router r).handlers.length) w := by
  simp [runLevel, bind_apply]

/-- Runs a router with at most `depth` levels of routers inside each other. -/
def run : (depth : Nat) → RouterRef → ContextRef → Exec Value
  | 0, _, _ => stop .exhausted
  | depth + 1, r, c =>
    within (.run r) (through calls r "run" c (.bool <$> runLevel calls (run depth) r c))

theorem run_own {r : RouterRef} {w : World} (own : Assoc.get? (w.router r).overrides "run" = none)
    (depth : Nat) (c : ContextRef) :
    run calls (depth + 1) r c w =
      let e := runLevel calls (run calls depth) r c w
      ⟨.step ⟨.run r, w, e.result.map .bool, e.world⟩ e.course .done, e.result.map .bool,
        e.world⟩ := by
  simp only [run, within_apply, through_own calls own, map_apply]

/-- The levels that routers made during a run may add. -/
def spareLevels : Nat := 1000

/-- The depth that is always enough for the routers of a world. -/
def depthFor (w : World) : Nat := w.routers.length + spareLevels

def runRouter (r : RouterRef) (c : ContextRef) : Exec Value := do
  run calls (depthFor (← get)) r c

def handleAlone (h : Handler) (c : ContextRef) : Exec Value :=
  handle calls (runRouter calls) h c

/-- Runs a router and reports the outcome, ordinary failures included. -/
def dispatch (r : RouterRef) (c : ContextRef) : Exec Outcome := do
  match ← attempt (runRouter calls r c) with
  | .ok v => return if v.isTruthy then .matched else .notMatched
  | .error f =>
    debug r ("dispatch failed with " ++ f.literal)
    return .failed f

end Dispatch
end HandlerChains
