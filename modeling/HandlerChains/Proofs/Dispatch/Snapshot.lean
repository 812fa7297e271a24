import HandlerChains.Proofs.Dispatch.Propagation
import HandlerChains.Proofs.Router.Growing
import Mathlib.Data.List.Infix

/-!
# The entries that a run calls

Actions can register more handlers with the router that they are called by. A run goes along the
handlers that its router had when it started, and a recovery along the error handlers that there
were when the failure came. So of what is registered during a run it calls at most error handlers,
and only if they were there before the failure.
-/

namespace HandlerChains

/-- A router calls an entry that is in a place of one of its chains at that time. -/
structure Passage.CallsEntry (r : RouterRef) (error : Bool) (i : Nat) (e : Entry) (p : Passage) :
    Prop where
  stage : p.stage = .entry r error i
  there : ((p.before.router r).registered error)[i]? = some e

theorem known_cons {chain known : List Entry} {e : Entry} {i : Nat}
    (h : e :: chain <+: known.drop i) : known[i]? = some e ∧ chain <+: known.drop (i + 1) := by
  obtain ⟨more, eq⟩ := h
  constructor
  · have first : (known.drop i)[0]? = some e := by
      rw [← eq]
      rfl
    simpa [List.getElem?_drop] using first
  · exists more
    rw [← List.tail_drop, ← eq]
    rfl

namespace Dispatch

open Exec

/-- Error handlers are tried one after another, from a place on, until one does not decline. -/
inductive TriesAlong (r : RouterRef) : List Entry → Nat → List Passage → Prop
  | spent (i : Nat) : TriesAlong r [] i []
  | declined {e chain i p tries} (calls : p.CallsEntry r true i e) (no : p.declines = true)
      (next : TriesAlong r chain (i + 1) tries) : TriesAlong r (e :: chain) i (p :: tries)
  | decided {e chain i p} (calls : p.CallsEntry r true i e) (stays : p.declines = false) :
      TriesAlong r (e :: chain) i [p]

/-- Handlers are called one after another, from a place on, until one does not decline, and if that
one fails, then error handlers are tried. They are not if the failure is one that nothing catches,
or if the class of the router has another way to recover. -/
inductive RunsAlong (r : RouterRef) (errors : List Entry) :
    List Entry → Nat → List Passage → Prop
  | spent (i : Nat) : RunsAlong r errors [] i []
  | declined {e chain i p trail} (calls : p.CallsEntry r false i e) (no : p.declines = true)
      (next : RunsAlong r errors chain (i + 1) trail) :
      RunsAlong r errors (e :: chain) i (p :: trail)
  | decided {e chain i p} (calls : p.CallsEntry r false i e) (stays : p.declines = false)
      (ends : ∀ f, p.ending = .error (.failed f) → f.isOrdinary = true →
        ¬ (p.after.router r).IsOwn "_recover") : RunsAlong r errors (e :: chain) i [p]
  | failed {e chain i p q f tries} (calls : p.CallsEntry r false i e)
      (ending : p.ending = .error (.failed f)) (ordinary : f.isOrdinary = true)
      (own : (p.after.router r).IsOwn "_recover") (stage : q.stage = .recovery r f)
      (same : q.before.routers = p.after.routers) (recovers : TriesAlong r errors 0 tries) :
      RunsAlong r errors (e :: chain) i (p :: q :: tries)

/-- A run goes along some handlers, and if it recovers, along the error handlers that there are when
that begins. `errors` come first among these. -/
def RunsFrom (r : RouterRef) (errors chain : List Entry) (i : Nat) (trail : List Passage) : Prop :=
  ∃ there, errors <+: there ∧ RunsAlong r there chain i trail ∧
    (there = errors ∨ ∃ q ∈ trail, (∃ f, q.stage = .recovery r f) ∧
      there = (q.before.router r).registered true)

namespace RunsFrom

variable {r : RouterRef} {errors errors' chain : List Entry} {i : Nat} {e : Entry} {p : Passage}
variable {trail : List Passage}

theorem of_along (along : RunsAlong r errors chain i trail) : RunsFrom r errors chain i trail :=
  ⟨errors, List.prefix_refl _, along, .inl rfl⟩

theorem declined (calls : p.CallsEntry r false i e) (no : p.declines = true)
    (next : RunsFrom r errors chain (i + 1) trail) :
    RunsFrom r errors (e :: chain) i (p :: trail) := by
  obtain ⟨there, more, along, began⟩ := next
  refine ⟨there, more, .declined calls no along, began.imp_right ?_⟩
  rintro ⟨q, mem, recovers⟩
  exact ⟨q, List.mem_cons_of_mem _ mem, recovers⟩

/-- If as many error handlers are there when a recovery begins as there were before, then they are
the same. -/
theorem along_of_length_eq (runs : RunsFrom r errors chain i trail)
    (few : ∀ q ∈ trail, (∃ f, q.stage = .recovery r f) →
      (q.before.router r).errorHandlers.length = errors.length) :
    RunsAlong r errors chain i trail := by
  obtain ⟨there, more, along, rfl | ⟨q, mem, recovers, rfl⟩⟩ := runs
  · exact along
  · rwa [more.eq_of_length ((few q mem recovers).symm.trans
      (Router.length_errors_registered _).symm)]

end RunsFrom

theorem TriesAlong.place_lt {r s : RouterRef} {chain : List Entry} {i : Nat} {tries : List Passage}
    (along : TriesAlong r chain i tries) {p : Passage} (mem : p ∈ tries) {error : Bool} {j : Nat}
    (stage : p.stage = .entry s error j) : error = true ∧ j < i + chain.length := by
  induction along with
  | spent i => cases mem
  | declined calls _ _ ih =>
    rcases List.mem_cons.1 mem with rfl | later
    · cases calls.stage.symm.trans stage
      exact ⟨rfl, by simp⟩
    · obtain ⟨tried, lies⟩ := ih later
      exact ⟨tried, by rw [List.length_cons]; omega⟩
  | decided calls _ =>
    obtain rfl := List.mem_singleton.1 mem
    cases calls.stage.symm.trans stage
    exact ⟨rfl, by simp⟩

theorem RunsAlong.place_lt {r s : RouterRef} {errors chain : List Entry} {i : Nat}
    {trail : List Passage} (along : RunsAlong r errors chain i trail) {p : Passage}
    (mem : p ∈ trail) {error : Bool} {j : Nat} (stage : p.stage = .entry s error j) :
    j < if error then errors.length else i + chain.length := by
  induction along with
  | spent i => cases mem
  | declined calls _ _ ih =>
    rcases List.mem_cons.1 mem with rfl | later
    · cases calls.stage.symm.trans stage
      simp
    · have lies := ih later
      rw [List.length_cons]
      cases error with
      | true => exact lies
      | false =>
        simp only [Bool.false_eq_true, if_false] at lies ⊢
        omega
  | decided calls _ _ =>
    obtain rfl := List.mem_singleton.1 mem
    cases calls.stage.symm.trans stage
    simp
  | failed calls _ _ _ recovery _ recovers =>
    rcases List.mem_cons.1 mem with rfl | later
    · cases calls.stage.symm.trans stage
      simp
    · rcases List.mem_cons.1 later with rfl | tried
      · cases recovery.symm.trans stage
      · obtain ⟨rfl, lies⟩ := recovers.place_lt tried stage
        simpa using lies

section

variable {calls : Calls} {inner : RouterRef → ContextRef → Exec Value} {c : ContextRef}
variable {r : RouterRef}

/-- The call of the next entry of a chain is one stage, and after it those that follow are in their
places still. -/
theorem callEntry_along {error : Bool} {chain : List Entry} {e : Entry} {i : Nat} {w : World}
    (grow : ∀ i, Respects Growth (callEntry calls inner r error c i))
    (known : e :: chain <+: ((w.router r).registered error).drop i) :
    ∃ result w₁ inside, callEntry calls inner r error c i w =
        ⟨.step ⟨.entry r error i, w, result, w₁⟩ inside .done, result, w₁⟩ ∧
      ((w.router r).registered error)[i]? = some e ∧
      chain <+: ((w₁.router r).registered error).drop (i + 1) ∧ w.Grows w₁ := by
  obtain ⟨there, rest⟩ := known_cons known
  obtain ⟨inside, stage⟩ := callEntry_stage calls inner r error c i w
  have grown : w.Grows (callEntry calls inner r error c i w).world := grow i w
  exact ⟨_, _, inside, stage, there, rest.trans ((grown r error).drop (i + 1)), grown⟩

theorem triesAlong_firstMatch
    (grow : ∀ i, Respects Growth (callEntry calls inner r true c i)) (chain : List Entry) (i : Nat)
    (w : World) (known : chain <+: ((w.router r).registered true).drop i) :
    TriesAlong r chain i
      ((firstMatch (callEntry calls inner r true c) (List.range' i chain.length) w).course.trail
        0) := by
  induction chain generalizing i w with
  | nil => exact .spent i
  | cons e chain ih =>
    -- `known` is the invariant: what is left of the chain stands where the walk goes on
    obtain ⟨result, w₁, inside, h, there, rest, -⟩ := callEntry_along grow known
    rw [List.length_cons, List.range'_succ]
    cases result with
    | error s =>
      rw [firstMatch_stopped h, Course.trail_try, Course.trail_done]
      exact .decided ⟨rfl, there⟩ rfl
    | ok v =>
      cases hv : v.isTruthy with
      | true =>
        rw [firstMatch_matched h hv, Course.trail_try, Course.trail_done]
        exact .decided ⟨rfl, there⟩ (by simp [Passage.declines, hv])
      | false =>
        rw [firstMatch_declined h hv, Course.step_append, Course.done_append, Course.trail_try]
        apply TriesAlong.declined ⟨rfl, there⟩ (by simp [Passage.declines, hv])
        exact ih (i + 1) w₁ rest

theorem recover_replaced {w : World} (other : ¬ (w.router r).IsOwn "_recover") (i : Nat)
    (f : Failure) : (recover calls inner r c i f w).course = .done := by
  cases refuses : (w.router r).expect "_recover" (.several 3) with
  | error g => simp [recover, bind_apply, refuses, Exec.lift]
  | ok _ => exact absurd ((Router.expect_eq_ok_iff ..).1 refuses) other

/-- A recovery goes along the error handlers that there are when it begins. -/
theorem runsFrom_recover (grow : ∀ i, Respects Growth (callEntry calls inner r true c i))
    {errors chain : List Entry} {i : Nat} {e : Entry} {p : Passage} {f : Failure}
    (called : p.CallsEntry r false i e) (ending : p.ending = .error (.failed f))
    (ordinary : f.isOrdinary = true) (early : errors <+: (p.after.router r).registered true) :
    RunsFrom r errors (e :: chain) i
      (p :: (recover calls inner r c i f p.after).course.trail 0) := by
  by_cases own : (p.after.router r).IsOwn "_recover"
  · obtain ⟨line, course, -⟩ := recover_own calls inner own c i f
    have tries := triesAlong_firstMatch grow ((p.after.router r).registered true) 0
      ((p.after.logLine line).putFailure c (some f)) (List.prefix_refl _)
    rw [← List.range_eq_range', Router.length_errors_registered] at tries
    rw [course, Course.trail_recovery, Course.trail_done, List.append_nil]
    refine ⟨_, early, .failed called ending ordinary own rfl rfl tries, .inr ?_⟩
    exact ⟨_, List.mem_cons_of_mem _ List.mem_cons_self, ⟨f, rfl⟩, rfl⟩
  · rw [recover_replaced own]
    have stays : p.declines = false := by simp [Passage.declines, ending]
    apply RunsFrom.of_along
    exact .decided called stays fun _ _ _ => own

/-- What a run calls once it has come to a place of its chain. -/
theorem runsFrom_firstMatchOr
    (grow : ∀ error i, Respects Growth (callEntry calls inner r error c i))
    {errors : List Entry} (chain : List Entry) (i : Nat) (w : World)
    (known : chain <+: ((w.router r).registered false).drop i)
    (early : errors <+: (w.router r).registered true) :
    RunsFrom r errors chain i
      ((firstMatchOr (recover calls inner r c) (callEntry calls inner r false c)
        (List.range' i chain.length) w).course.trail 0) := by
  induction chain generalizing i w with
  | nil => exact .of_along (.spent i)
  | cons e chain ih =>
    obtain ⟨result, w₁, inside, h, there, rest, grown⟩ := callEntry_along (grow false) known
    have later : errors <+: (w₁.router r).registered true := early.trans (grown r true)
    rw [List.length_cons, List.range'_succ]
    cases result with
    | ok v =>
      cases hv : v.isTruthy with
      | true =>
        rw [firstMatchOr_matched h hv, Course.trail_entry_zero, Course.trail_done]
        apply RunsFrom.of_along
        apply RunsAlong.decided ⟨rfl, there⟩ (by simp [Passage.declines, hv])
        rintro f ⟨⟩
      | false =>
        rw [firstMatchOr_declined h hv, Course.step_append, Course.done_append,
          Course.trail_entry_zero]
        apply RunsFrom.declined ⟨rfl, there⟩ (by simp [Passage.declines, hv])
        exact ih (i + 1) w₁ rest later
    | error s =>
      cases hs : s.isOrdinary with
      | false =>
        rw [firstMatchOr_stopped h hs, Course.trail_entry_zero, Course.trail_done]
        apply RunsFrom.of_along
        apply RunsAlong.decided ⟨rfl, there⟩ rfl
        rintro f ⟨⟩ ordinary
        exact absurd (hs.symm.trans ordinary) (by decide)
      | true =>
        obtain ⟨f, rfl, ordinary⟩ := Stop.eq_failed hs
        rw [firstMatchOr_failed h ordinary, Course.step_append, Course.done_append,
          Course.trail_entry_zero]
        -- which error handlers are there is read now, after those that the entry registered
        exact runsFrom_recover (grow true) ⟨rfl, there⟩ rfl ordinary later

end

/-- A run calls the handlers that its router had when it started, one after another until one does
not decline; what is registered meanwhile is not among them. If one of them fails, the error
handlers are tried that there are at that time: those from the start, and after them what was
registered until the failure. So if no error handler was, the chains from the start decide on all
that is called. Whatever is registered is there for later runs. -/
theorem run_runsAlong_chains {r : RouterRef} {w : World} (own : (w.router r).IsOwn "run")
    (level depth : Nat) (c : ContextRef) :
    let e := run (callsWithin level) (depth + 1) r c w
    let trail := e.course.trail 0
    let handlers := (w.router r).registered false
    let errors := (w.router r).registered true
    RunsFrom r errors handlers 0 trail ∧
      ((∀ q ∈ trail, (∃ f, q.stage = .recovery r f) →
          (q.before.router r).errorHandlers.length = (w.router r).errorHandlers.length) →
        RunsAlong r errors handlers 0 trail) ∧
      w.Grows e.world := by
  dsimp only
  have grows := Growth.invariant (Growth.commands.callsWithin level) c
  have calls : ∀ error i,
      Respects Growth (callEntry (callsWithin level) (run (callsWithin level) depth) r error c i) :=
    grows.toWalk.callEntry (grows.respects_run depth) r
  have runs := runsFrom_firstMatchOr calls ((w.router r).registered false) 0 w
    (List.prefix_refl _) (List.prefix_refl ((w.router r).registered true))
  rw [← List.range_eq_range', Router.length_handlers_registered] at runs
  rw [run_own _ own, runLevel_apply, Course.trail_run, Course.trail_done, List.append_nil]
  refine ⟨runs, fun few => runs.along_of_length_eq fun q mem recovers => ?_, ?_⟩
  · exact (few q mem recovers).trans (Router.length_errors_registered _).symm
  · have grown := grows.respects_run (depth + 1) r w
    rwa [run_own _ own, runLevel_apply] at grown

def registering (purpose : Purpose) : Instruction :=
  .perform (.register "r" (.mk (.action purpose (.function "late" [] .null)) [] false))

/-- A router whose handlers register handlers and whose error handler registers error handlers. One
handler declines, and the next one fails. -/
def growing : World :=
  { Small.world
      [Small.router
        [.callback (Small.action [registering .notFound]),
          .always (Small.action [registering .callback, .fail (.raised .boom "")])]
        [.callback (Small.action [registering .error])]] with
    routerNames := [("r", 0)] }

theorem run_growing_runsAlong_chains :
    let e := run (callsWithin 2) 1 0 0 growing
    (growing.router 0).IsOwn "run" ∧
      (∀ q ∈ e.course.trail 0, (q.before.router 0).errorHandlers.length = 1) ∧
      ((e.world.router 0).handlers.length, (e.world.router 0).errorHandlers.length) = (4, 2) ∧
      RunsAlong 0 ((growing.router 0).registered true) ((growing.router 0).registered false) 0
        (e.course.trail 0) := by
  intro e
  have own : (growing.router 0).IsOwn "run" := rfl
  have alike : (e.course.trail 0).all fun q => (q.before.router 0).errorHandlers.length == 1 := by
    decide +kernel
  have few : ∀ q ∈ e.course.trail 0, (q.before.router 0).errorHandlers.length = 1 := by
    simpa using alike
  obtain ⟨-, along, -⟩ := run_runsAlong_chains own 2 0 0
  exact ⟨own, few, by decide +kernel, along fun q mem _ => few q mem⟩

/-- A router without error handlers. Its handler registers one and fails. -/
def recovering : World :=
  { Small.world
      [Small.router [.always (Small.action [registering .error, .fail (.raised .boom "")])]] with
    routerNames := [("r", 0)] }

/-- An error handler that was registered before the failure is tried, and the run matches. -/
theorem run_recovering_tries_late :
    let e := run (callsWithin 2) 1 0 0 recovering
    (recovering.router 0).errorHandlers = [] ∧ e.result.toOption.any Value.isTruthy = true ∧
      (e.course.trail 0).any (fun p => p.stage.isTry) = true ∧
      ¬ RunsAlong 0 ((recovering.router 0).registered true)
        ((recovering.router 0).registered false) 0 (e.course.trail 0) := by
  intro e
  have tried : (e.course.trail 0).any (fun p => p.stage.isTry) = true := by decide +kernel
  refine ⟨rfl, by decide +kernel, tried, fun along => ?_⟩
  obtain ⟨p, mem, isTry⟩ := List.any_eq_true.1 tried
  unfold Stage.isTry at isTry
  split at isTry
  · next stage =>
    have lies := along.place_lt mem stage
    rw [isTry] at lies
    exact Nat.not_lt_zero _ lies
  · cases isTry

end Dispatch
end HandlerChains
