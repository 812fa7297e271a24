import HandlerChains.Proofs.Dispatch.Descent
import Mathlib.Data.List.Forall2

/-!
# How failures go from level to level

Routers are mounted inside each other, and a handler of the innermost one fails. Then the error
handlers of each level are tried, those of the innermost one first, and what they see of the route
and the parameters is what their own level had. The first of them that does not decline decides: the
run is over if it matches, and goes on with its failure if it fails.
-/

namespace HandlerChains

def Stage.isTry : Stage → Bool
  | entry _ error _ => error
  | _ => false

/-- Whether the next error handler is tried after a passage: it is about none, or it declines. -/
def Passage.passesOn (p : Passage) : Bool := !p.stage.isTry || p.declines

namespace Dispatch

open Exec

/-- The error handlers at some places of a router are tried on a context one after another, until
one of them does not decline. -/
inductive Walk (c : ContextRef) (r : RouterRef) (ctx : Context) :
    List Nat → List Passage → Except Stop Bool → Prop
  | done : Walk c r ctx [] [] (.ok false)
  | declined {p i places tries result} (stage : p.stage = .entry r true i)
    (sees : p.before.context c = ctx) (no : p.declines = true)
    (next : Walk c r ctx places tries result) : Walk c r ctx (i :: places) (p :: tries) result
  | matched {p i places v} (stage : p.stage = .entry r true i) (sees : p.before.context c = ctx)
    (ending : p.ending = .ok v) (yes : v.isTruthy = true) :
    Walk c r ctx (i :: places) [p] (.ok true)
  | stopped {p i places s} (stage : p.stage = .entry r true i) (sees : p.before.context c = ctx)
    (ending : p.ending = .error s) : Walk c r ctx (i :: places) [p] (.error s)

/-- What the error handlers of a level are to see: the failure, and what there is of the context. -/
structure Sees (c : ContextRef) (l : Level) (f : Failure) (w : World) : Prop where
  failure : (w.context c).failure = some f
  route : (w.context c).route = l.route
  parameters : (w.context c).parameters = l.parameters

/-- The recovery of a level from a failure, with what came of it. -/
def Recovers (c : ContextRef) (l : Level) (f : Failure) (trail : List Passage)
    (result : Except Stop Bool) : Prop :=
  ∃ q tries, trail = q :: tries ∧ q.stage = .recovery l.router f ∧ Sees c l f q.before ∧
    Walk c l.router (q.before.context c)
      (List.range (q.before.router l.router).errorHandlers.length) tries result

/-- A failure comes to some levels, the innermost one first. -/
inductive Unwinds (c : ContextRef) :
    List Level → Failure → List Passage → Except Stop Value → Prop
  | spent (f) : Unwinds c [] f [] (.error (.failed f))
  | declined {l levels f trail rest result} (recovers : Recovers c l f trail (.ok false))
    (outer : Unwinds c levels f rest result) : Unwinds c (l :: levels) f (trail ++ rest) result
  | matched {l levels f trail} (recovers : Recovers c l f trail (.ok true)) :
    Unwinds c (l :: levels) f trail (.ok (.bool true))
  | raised {l levels f trail g rest result}
    (recovers : Recovers c l f trail (.error (.failed g))) (ordinary : g.isOrdinary = true)
    (outer : Unwinds c levels g rest result) : Unwinds c (l :: levels) f (trail ++ rest) result
  | stopped {l levels f trail s} (recovers : Recovers c l f trail (.error s))
    (ends : s.isOrdinary = false) : Unwinds c (l :: levels) f trail (.error s)

/-- Error handlers that decline leave the context as it is. -/
def Quiet (c : ContextRef) (trail : List Passage) : Prop :=
  ∀ p ∈ trail, p.stage.isTry = true → p.declines = true → p.after.context c = p.before.context c

theorem Quiet.left {c : ContextRef} {s t : List Passage} (h : Quiet c (s ++ t)) : Quiet c s :=
  fun p hp => h p (List.mem_append_left t hp)

theorem Quiet.right {c : ContextRef} {s t : List Passage} (h : Quiet c (s ++ t)) : Quiet c t :=
  fun p hp => h p (List.mem_append_right s hp)

theorem Quiet.tail {c : ContextRef} {p : Passage} {t : List Passage} (h : Quiet c (p :: t)) :
    Quiet c t :=
  fun q hq => h q (List.mem_cons_of_mem p hq)

section

variable {calls : Calls} {inner : RouterRef → ContextRef → Exec Value} {c : ContextRef}

theorem walk_firstMatch (below : Nat) (r : RouterRef) (places : List Nat) (w : World)
    (quiet : Quiet c
      ((firstMatch (callEntry calls inner r true c) places w).course.trail below)) :
    Walk c r (w.context c) places
      ((firstMatch (callEntry calls inner r true c) places w).course.trail below)
      (firstMatch (callEntry calls inner r true c) places w).result := by
  induction places generalizing w with
  | nil => exact .done
  | cons i places ih =>
    obtain ⟨inside, h⟩ := callEntry_stage calls inner r true c i w
    generalize (callEntry calls inner r true c i w).world = w₁ at h
    cases hr : (callEntry calls inner r true c i w).result with
    | error s =>
      rw [hr] at h
      rw [firstMatch_stopped h]
      simp only [Course.trail_try, Course.trail_done]
      exact .stopped rfl rfl rfl
    | ok v =>
      rw [hr] at h
      cases hv : v.isTruthy with
      | true =>
        rw [firstMatch_matched h hv]
        simp only [Course.trail_try, Course.trail_done]
        exact .matched rfl rfl rfl hv
      | false =>
        rw [firstMatch_declined h hv] at quiet ⊢
        simp only [Course.step_append, Course.done_append, Course.trail_try] at quiet ⊢
        have no : Passage.declines ⟨.entry r true i, w, .ok v, w₁⟩ = true := by
          simp [Passage.declines, hv]
        have same := quiet _ List.mem_cons_self rfl no
        refine .declined rfl rfl no ?_
        rw [← show w₁.context c = w.context c from same]
        exact ih w₁ quiet.tail

theorem unwinds_recover {l : Level} {f : Failure} {w : World} (below : Nat) (i : Nat)
    (own : Assoc.get? (w.router l.router).overrides "_recover" = none)
    (route : (w.context c).route = l.route) (parameters : (w.context c).parameters = l.parameters)
    (quiet : Quiet c ((recover calls inner l.router c i f w).course.trail below)) :
    Unwinds c [l] f ((recover calls inner l.router c i f w).course.trail below)
      ((recover calls inner l.router c i f w).result.map .bool) := by
  obtain ⟨line, hcourse, hresult⟩ := recover_own calls inner own c i f
  have sees : Sees c l f ((w.logLine line).putFailure c (some f)) :=
    ⟨by simp, by simpa using route, by simpa using parameters⟩
  generalize (w.logLine line).putFailure c (some f) = before at hcourse hresult sees
  rw [hcourse] at quiet ⊢
  rw [hresult]
  simp only [Course.trail_recovery, Course.trail_done, List.append_nil] at quiet ⊢
  have walk := walk_firstMatch below l.router _ before quiet.tail
  generalize firstMatch _ _ before = e at walk
  have recovers : Recovers c l f _ e.result :=
    ⟨⟨.recovery l.router f, before, e.result.map .bool, e.world⟩, _, rfl, rfl, sees, walk⟩
  rcases e with ⟨course, s | matched, w'⟩
  · cases ordinary : s.isOrdinary with
    | false => exact .stopped recovers ordinary
    | true =>
      obtain ⟨g, rfl, -⟩ := Stop.eq_failed ordinary
      have unwinds := Unwinds.raised recovers ordinary (.spent g)
      rwa [List.append_nil] at unwinds
  · cases matched with
    | false =>
      have unwinds := Unwinds.declined recovers (.spent f)
      rwa [List.append_nil] at unwinds
    | true => exact .matched recovers

namespace Unwinds

variable {levels : List Level} {l : Level} {f g : Failure} {trail rest : List Passage}
variable {result : Except Stop Value}

theorem snoc (h : Unwinds c levels f trail (.error (.failed g))) (hg : g.isOrdinary = true)
    (outer : Unwinds c [l] g rest result) :
    Unwinds c (levels ++ [l]) f (trail ++ rest) result := by
  generalize he : (.error (.failed g) : Except Stop Value) = e at h
  induction h with
  | spent f =>
    cases he
    exact outer
  | declined recovers _ ih =>
    rw [List.append_assoc]
    exact .declined recovers (ih he)
  | matched => cases he
  | raised recovers ordinary _ ih =>
    rw [List.append_assoc]
    exact .raised recovers ordinary (ih he)
  | stopped _ ends =>
    cases he
    exact absurd hg (by simpa [Stop.isOrdinary] using ends)

theorem widen (h : Unwinds c levels f trail result) (hf : f.isOrdinary = true)
    (ends : ∀ s, result = .error s → s.isOrdinary = false) :
    Unwinds c (levels ++ [l]) f trail result := by
  induction h with
  | spent f => exact absurd hf (by simpa [Stop.isOrdinary] using ends _ rfl)
  | declined recovers _ ih => exact .declined recovers (ih hf ends)
  | matched recovers => exact .matched recovers
  | raised recovers ordinary _ ih => exact .raised recovers ordinary (ih ordinary ends)
  | stopped recovers stops => exact .stopped recovers stops

end Unwinds

/-- What comes to a level from an entry that does not decline. `rest` is what of the trail comes
after the entry. -/
theorem unwinds_outside (below : Nat) {r : RouterRef} {i : Nat} {w after : World} {called : Course}
    {result : Except Stop Value} (ctx : Context)
    (stage : callEntry calls inner r false c i w = ⟨called, result, after⟩)
    (kept : MatchesOrStops result)
    (own : Assoc.get? (after.router r).overrides "_recover" = none)
    (route : (after.context c).route = ctx.route)
    (parameters : (∃ s, result = .error s) → (after.context c).parameters = ctx.parameters)
    (more : List Nat) :
    let e := firstMatchOr (recover calls inner r c) (callEntry calls inner r false c) (i :: more) w
    ∃ rest, e.course.trail below = called.trail below ++ rest ∧
      (Quiet c rest → ∀ levels f tries, f.isOrdinary = true → Unwinds c levels f tries result →
        Unwinds c (levels ++ [.ofContext r i ctx]) f (tries ++ rest) (e.result.map .bool)) := by
  intro e
  have eq : e = firstMatchOr (recover calls inner r c) _ (i :: more) w := rfl
  rcases firstMatchOr_kept (recover calls inner r c) stage kept more with
    ⟨rfl, h⟩ | ⟨g, hg, rfl, h⟩ | ⟨s, ends, rfl, h⟩ <;> rw [eq, h]
  · refine ⟨[], by rw [List.append_nil], fun _ levels f tries hf unwinds => ?_⟩
    rw [List.append_nil]
    exact unwinds.widen hf fun s hs => by cases hs
  · refine ⟨(recover calls inner r c i g after).course.trail below, Course.trail_append _ _ _,
      fun quiet levels f tries hf unwinds => ?_⟩
    refine unwinds.snoc hg (unwinds_recover (l := .ofContext r i ctx) below i own route ?_ quiet)
    exact parameters ⟨_, rfl⟩
  · refine ⟨[], by rw [List.append_nil], fun _ levels f tries hf unwinds => ?_⟩
    rw [List.append_nil]
    refine unwinds.widen hf fun s' hs => ?_
    cases hs
    exact ends

/-- The failure of an entry that a run reaches comes to the levels on the way. -/
theorem Reaches.unwinds {depth : Nat} {r : RouterRef} {w : World} {levels : List Level}
    {f : Failure} (h : Reaches calls c depth r w levels f)
    (quiet : Quiet c ((run calls depth r c w).course.trail (levels.length - 1))) :
    ∃ attempts tries,
      (run calls depth r c w).course.trail (levels.length - 1) = attempts ++ tries ∧
        attempts.map Passage.stage = wayThrough levels ∧
        Unwinds c levels.reverse f tries (run calls depth r c w).result := by
  induction h with
  | @here depth r w i w₁ f way fails ordinary own =>
    obtain ⟨course, more, trail, eq⟩ := runLevel_getsTo way
    obtain ⟨inside, stage⟩ := callEntry_stage calls (run calls depth) r false c i w₁
    rw [fails] at stage
    generalize (callEntry calls (run calls depth) r false c i w₁).world = w₂ at own stage
    obtain ⟨rest, split, outside⟩ := unwinds_outside 0 (w₂.context c) stage (.inr ⟨_, rfl⟩) own
      rfl (fun _ => rfl) more
    rw [run_own calls way.own, eq] at quiet ⊢
    simp only [List.length_singleton, Nat.sub_self, Course.trail_run, Course.trail_append, split,
      Course.trail_entry_zero, Course.trail_done, List.append_nil] at quiet ⊢
    refine ⟨course.trail 0 ++ [⟨.entry r false i, w₁, .error (.failed f), w₂⟩], rest, by simp,
      ?_, ?_⟩
    · exact wayThrough_cons (trail 0) rfl rfl _
    · exact outside quiet.right.right [] f [] ordinary (.spent f)
  | @inside depth r w i w₁ e p child w₂ route captured rest levels f way entry mount lets hasRoute
      cut next own ih =>
    obtain ⟨course, more, trail, eq⟩ := runLevel_getsTo way
    obtain ⟨left, after, stage, sameRoute, sameParameters⟩ := callEntry_mount calls
      (run calls depth) c entry mount lets hasRoute cut
    have kept := next.matchesOrStops
    rw [stage] at own
    generalize run calls depth child c
      (w₂.setContext c (enterMount captured rest (w₂.context c))) = ran at *
    -- One level less is looked at inside the mount than at the mount.
    have size : (Level.ofContext r i (w₁.context c) :: levels).length - 1 =
        (levels.length - 1) + 1 := by
      have := List.length_pos_iff.2 next.levels_ne_nil
      simp only [List.length_cons]
      omega
    obtain ⟨rest, split, outside⟩ := unwinds_outside (levels.length - 1 + 1)
      (w₁.context c) stage kept own sameRoute (fun ⟨s, hs⟩ => sameParameters (by rw [hs]; rfl)) more
    rw [Course.trail_entry_kept _ _ _ rfl (kept.keeps _ _ _)] at split
    rw [size]
    rw [size, run_own calls way.own, eq] at quiet
    rw [run_own calls way.own, eq]
    simp only [Course.trail_run, Course.trail_append, Course.trail_handler, Course.trail_done,
      split, List.append_nil] at quiet ⊢
    obtain ⟨attempts, tries, inner, places, unwinds⟩ := ih quiet.right.left.tail
    refine ⟨course.trail (levels.length - 1 + 1) ++
      ⟨.entry r false i, w₁, ran.result, after⟩ :: attempts, tries ++ rest, ?_, ?_, ?_⟩
    · rw [inner]
      simp
    · exact wayThrough_cons (trail _) rfl places _
    · rw [List.reverse_cons]
      exact outside quiet.right.right _ f _ next.ordinary unwinds

end

/-- All error handlers of a level were tried on a failure, in order. -/
def TriesAll (c : ContextRef) (f : Failure) (l : Level) (trail : List Passage) : Prop :=
  ∃ q tries, trail = q :: tries ∧ q.stage = .recovery l.router f ∧
    tries.map Passage.stage = (List.range (q.before.router l.router).errorHandlers.length).map
      (.entry l.router true) ∧
    ∀ p ∈ tries, Sees c l f p.before

section

variable {c : ContextRef} {r : RouterRef} {ctx : Context} {places : List Nat}
variable {l : Level} {levels : List Level} {f g : Failure} {p : Passage}
variable {tries after : List Passage} {answer : Except Stop Bool} {result : Except Stop Value}

theorem Walk.of_declined (h : Walk c r ctx places tries (.ok false)) :
    tries.map Passage.stage = places.map (.entry r true) ∧
      ∀ p ∈ tries, p.passesOn = true ∧ p.before.context c = ctx := by
  generalize he : (.ok false : Except Stop Bool) = e at h
  induction h with
  | done => simp
  | declined stage sees no _ ih =>
    obtain ⟨stages, all⟩ := ih he
    refine ⟨by simp [stage, stages], fun p hp => ?_⟩
    obtain rfl | hp := List.mem_cons.1 hp
    · exact ⟨by simp [Passage.passesOn, no], sees⟩
    · exact all p hp
  | matched => cases he
  | stopped => cases he

theorem Walk.of_decided (h : Walk c r ctx places tries answer) (decided : answer ≠ .ok false) :
    ∃ before p place, tries = before ++ [p] ∧ (∀ q ∈ before, q.passesOn = true) ∧
      p.passesOn = false ∧ p.stage = .entry r true place ∧
      ((∃ v, p.ending = .ok v) → answer = .ok true) ∧
      ∀ s, p.ending = .error s → answer = .error s := by
  induction h with
  | done => exact absurd rfl decided
  | @declined q _ _ _ _ stage _ no _ ih =>
    obtain ⟨before, p, place, rfl, all, last⟩ := ih decided
    refine ⟨q :: before, p, place, rfl, fun x hx => ?_, last⟩
    obtain rfl | hx := List.mem_cons.1 hx
    · simp [Passage.passesOn, no]
    · exact all x hx
  | @matched p place _ v stage _ ending yes =>
    refine ⟨[], p, place, rfl, by simp, ?_, stage, fun _ => rfl, fun s h => ?_⟩
    · simp [Passage.passesOn, Passage.declines, Stage.isTry, stage, ending, yes]
    · rw [ending] at h
      cases h
  | @stopped p place _ s stage _ ending =>
    refine ⟨[], p, place, rfl, by simp, ?_, stage, ?_, ?_⟩
    · simp [Passage.passesOn, Passage.declines, Stage.isTry, stage, ending]
    · rintro ⟨v, h⟩
      rw [ending] at h
      cases h
    · intro t h
      rw [ending] at h
      cases h
      rfl

theorem Recovers.of_declined (h : Recovers c l f tries (.ok false)) :
    TriesAll c f l tries ∧ ∀ p ∈ tries, p.passesOn = true := by
  obtain ⟨q, rest, rfl, stage, sees, walk⟩ := h
  obtain ⟨stages, all⟩ := walk.of_declined
  refine ⟨⟨q, rest, rfl, stage, stages, fun p hp => ?_⟩, fun p hp => ?_⟩
  · have same := (all p hp).2
    exact ⟨same ▸ sees.failure, same ▸ sees.route, same ▸ sees.parameters⟩
  · obtain rfl | hp := List.mem_cons.1 hp
    · simp [Passage.passesOn, stage, Stage.isTry]
    · exact (all p hp).1

theorem Recovers.of_decided (h : Recovers c l f tries answer) (decided : answer ≠ .ok false) :
    ∃ p place, tries.dropWhile Passage.passesOn = [p] ∧ p.stage = .entry l.router true place ∧
      ((∃ v, p.ending = .ok v) → answer = .ok true) ∧
      ∀ s, p.ending = .error s → answer = .error s := by
  obtain ⟨q, rest, rfl, stage, sees, walk⟩ := h
  obtain ⟨before, p, place, rfl, all, last, hp, ends⟩ := walk.of_decided decided
  have hq : q.passesOn = true := by simp [Passage.passesOn, stage, Stage.isTry]
  refine ⟨p, place, ?_, hp, ends⟩
  rw [List.dropWhile_cons_of_pos hq, List.dropWhile_append_of_pos all]
  simp [last]

/-- Where all error handlers decline, those of all levels are tried and the failure goes on. -/
theorem Unwinds.of_declined (h : Unwinds c levels f tries result)
    (none : tries.dropWhile Passage.passesOn = []) :
    result = .error (.failed f) ∧
      ∃ chains, tries = chains.flatten ∧ List.Forall₂ (TriesAll c f) levels chains := by
  induction h with
  | spent f => exact ⟨rfl, [], rfl, .nil⟩
  | @declined l levels f trail rest result recovers _ ih =>
    obtain ⟨whole, all⟩ := recovers.of_declined
    rw [List.dropWhile_append_of_pos all] at none
    obtain ⟨ended, chains, rfl, same⟩ := ih none
    exact ⟨ended, trail :: chains, rfl, .cons whole same⟩
  | matched recovers =>
    obtain ⟨p, _, drop, -⟩ := recovers.of_decided (by simp)
    rw [drop] at none
    cases none
  | raised recovers _ _ _ =>
    obtain ⟨p, _, drop, -⟩ := recovers.of_decided (by simp)
    rw [List.dropWhile_append, drop] at none
    cases none
  | stopped recovers _ =>
    obtain ⟨p, _, drop, -⟩ := recovers.of_decided (by simp)
    rw [drop] at none
    cases none

/-- The first error handler that does not decline ends the run if it matches. If it fails, the rest
of its chain is not tried, and its failure comes to the levels outside. -/
theorem Unwinds.of_decided (h : Unwinds c levels f tries result)
    (first : tries.dropWhile Passage.passesOn = p :: after) :
    ((∃ v, p.ending = .ok v) → after = [] ∧ result = .ok (.bool true)) ∧
      ∀ g, p.ending = .error (.failed g) → g.isOrdinary = true →
        ∃ inner l outer place, levels = inner ++ l :: outer ∧
          p.stage = .entry l.router true place ∧ Unwinds c outer g after result := by
  induction h with
  | spent f => cases first
  | @declined l levels f trail rest result recovers _ ih =>
    rw [List.dropWhile_append_of_pos recovers.of_declined.2] at first
    obtain ⟨matched, raised⟩ := ih first
    refine ⟨matched, fun g hg ordinary => ?_⟩
    obtain ⟨inner, l', outer, place, rfl, stage, unwinds⟩ := raised g hg ordinary
    exact ⟨l :: inner, l', outer, place, rfl, stage, unwinds⟩
  | matched recovers =>
    obtain ⟨q, place, drop, -, -, error⟩ := recovers.of_decided (by simp)
    rw [drop] at first
    cases first
    exact ⟨fun _ => ⟨rfl, rfl⟩, fun g hg _ => by cases error _ hg⟩
  | @raised l levels f trail g rest result recovers _ outer _ =>
    obtain ⟨q, place, drop, stage, ok, error⟩ := recovers.of_decided (by simp)
    rw [List.dropWhile_append, drop] at first
    cases first
    refine ⟨fun hv => (by cases ok hv), fun g' hg _ => ?_⟩
    cases error _ hg
    exact ⟨[], l, levels, place, rfl, stage, outer⟩
  | @stopped l levels f trail s recovers ends =>
    obtain ⟨q, place, drop, -, ok, error⟩ := recovers.of_decided (by simp)
    rw [drop] at first
    cases first
    refine ⟨fun hv => (by cases ok hv), fun g hg ordinary => ?_⟩
    cases error _ hg
    exact absurd ordinary (by simpa [Stop.isOrdinary] using ends)

end

theorem dispatch_failed {calls : Calls} {r : RouterRef} {c : ContextRef} {w : World} {f : Failure}
    (h : (run calls (depthFor w) r c w).result = .error (.failed f))
    (ordinary : f.isOrdinary = true) :
    (dispatch calls r c w).result = .ok (.failed f) := by
  have ran : runRouter calls r c w =
      ⟨(run calls (depthFor w) r c w).course, .error (.failed f),
        (run calls (depthFor w) r c w).world⟩ := by
    rw [← h]
    simp [runRouter, bind_apply]
  simp [dispatch, bind_apply, attempt_failed ran ordinary, debug_apply]

/-- A handler fails at the innermost of some levels. On the way nothing but the entries up to the
failing one is called at each level, and the failure comes to the levels from the inside out. If
all error handlers decline, those of each level are tried in order, each on the same failure with
the route and the parameters that its level had, and the failure ends the run. The first one that
does not decline ends the run if it matches; if it fails, its failure takes the place of the first
one for the levels outside. -/
theorem run_failure_propagates {calls : Calls} {c : ContextRef} {depth : Nat} {r : RouterRef}
    {w : World} {levels : List Level} {f : Failure} (h : Reaches calls c depth r w levels f)
    (quiet : Quiet c ((run calls depth r c w).course.trail (levels.length - 1))) :
    ∃ attempts tries,
      (run calls depth r c w).course.trail (levels.length - 1) = attempts ++ tries ∧
      attempts.map Passage.stage = wayThrough levels ∧
      Unwinds c levels.reverse f tries (run calls depth r c w).result ∧
      (tries.dropWhile Passage.passesOn = [] →
        (run calls depth r c w).result = .error (.failed f) ∧
        (depth = depthFor w → (dispatch calls r c w).result = .ok (.failed f)) ∧
        ∃ chains, tries = chains.flatten ∧
          List.Forall₂ (TriesAll c f) levels.reverse chains) ∧
      ∀ p after, tries.dropWhile Passage.passesOn = p :: after →
        ((∃ v, p.ending = .ok v) → after = [] ∧ (run calls depth r c w).result = .ok (.bool true)) ∧
        ∀ g, p.ending = .error (.failed g) → g.isOrdinary = true →
          ∃ inner l outer place, levels.reverse = inner ++ l :: outer ∧
            p.stage = .entry l.router true place ∧
            Unwinds c outer g after (run calls depth r c w).result := by
  obtain ⟨attempts, tries, split, way, unwinds⟩ := h.unwinds quiet
  refine ⟨attempts, tries, split, way, unwinds, fun none => ?_, fun p after first => ?_⟩
  · obtain ⟨ended, chains⟩ := unwinds.of_declined none
    refine ⟨ended, fun hd => ?_, chains⟩
    subst hd
    exact dispatch_failed ended h.ordinary
  · exact unwinds.of_decided first

/-- Three routers inside each other. A handler of the innermost one changes the route and fails, and
no error handler is there for that. -/
def mountedTwice : World :=
  Small.world
    [Small.router [.setNamespace ".", .mount .empty 1]
        [.conditional (.failureIs .subBoom) (Small.action [])],
      Small.router [.mount .empty 2],
      Small.router [.always (Small.action [.assign (.route .null), .fail (.raised .boom "")])]
        [.conditional (.failureIs .subBoom) (Small.action [])]]
    { route := .text "" }

/-- The levels of `mountedTwice` as they are to be seen again. -/
def mountedTwiceLevels : List Level :=
  [⟨0, 1, .text "", none⟩, ⟨1, 0, .text "", some []⟩, ⟨2, 0, .null, some []⟩]

theorem reaches_mountedTwice :
    Reaches Small.calls 0 3 0 mountedTwice mountedTwiceLevels (.raised .boom "") := by
  have way₀ : GetsTo Small.calls 2 0 0 mountedTwice 1
      (mountedTwice.setContext 0 { route := .text "", nameSpace := .text "." }) :=
    ⟨rfl, by decide, ⟨.bool false, rfl, rfl⟩, rfl⟩
  have way₁ (w : World) (h : w.router 1 = Small.router [.mount .empty 2]) :
      GetsTo Small.calls 1 1 0 w 0 w :=
    ⟨by rw [h]; rfl, by rw [h]; decide, rfl⟩
  have way₂ (w : World) (h : w.router 2 = mountedTwice.router 2) :
      GetsTo Small.calls 0 2 0 w 0 w :=
    ⟨by rw [h]; rfl, by rw [h]; decide, rfl⟩
  refine .inside way₀ rfl rfl (.refl _) rfl rfl ?_ rfl
  refine .inside (way₁ _ rfl) rfl rfl (.refl _) rfl rfl ?_ rfl
  refine .here (way₂ _ ?_) rfl rfl rfl
  rfl

theorem quiet_mountedTwice :
    Quiet 0
      ((run Small.calls 3 0 0 mountedTwice).course.trail (mountedTwiceLevels.length - 1)) := by
  have same : (((run Small.calls 3 0 0 mountedTwice).course.trail 2).filter fun p =>
      p.stage.isTry).map (fun p => (p.after.context 0, p.before.context 0)) =
      [{ route := .null, parameters := some [], nameSpace := .text ".",
          failure := some (.raised .boom "") },
        { route := .text "", nameSpace := .text ".",
          failure := some (.raised .boom "") }].map fun ctx => (ctx, ctx) := rfl
  intro p hp isTry _
  exact Small.agree_of_pairs same p (List.mem_filter.2 ⟨hp, isTry⟩)

theorem run_mountedTwice_propagates :
    Reaches Small.calls 0 3 0 mountedTwice mountedTwiceLevels (.raised .boom "") ∧
      Quiet 0
        ((run Small.calls 3 0 0 mountedTwice).course.trail (mountedTwiceLevels.length - 1)) ∧
      ∃ attempts tries,
        (run Small.calls 3 0 0 mountedTwice).course.trail (mountedTwiceLevels.length - 1) =
          attempts ++ tries ∧
        attempts.map Passage.stage = wayThrough mountedTwiceLevels ∧
        Unwinds 0 mountedTwiceLevels.reverse (.raised .boom "") tries
          (run Small.calls 3 0 0 mountedTwice).result := by
  obtain ⟨attempts, tries, split, way, unwinds, -⟩ :=
    run_failure_propagates reaches_mountedTwice quiet_mountedTwice
  exact ⟨reaches_mountedTwice, quiet_mountedTwice, attempts, tries, split, way, unwinds⟩

end Dispatch
end HandlerChains
