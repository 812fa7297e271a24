import HandlerChains.Proofs.Dispatch.Layers
import HandlerChains.Proofs.Dispatch.Mount

/-!
# Getting to a failing entry

A run goes down through mounts: at each level the entries in front of the mount decline, and at the
innermost level an entry fails. The trail of a course shows the entries that were called on such a
way and the recoveries after it, without what happened elsewhere.
-/

namespace HandlerChains

/-- A router that a run is in, the place of its chain at which the run is, and what the error
handlers of the router are to see of the context. -/
structure Level where
  router : RouterRef
  place : Nat
  route : Value
  parameters : Option (Assoc Value)

def Level.ofContext (r : RouterRef) (place : Nat) (ctx : Context) : Level :=
  ⟨r, place, ctx.route, ctx.parameters⟩

def Passage.declines (p : Passage) : Bool :=
  match p.ending with
  | .ok v => !v.isTruthy
  | .error _ => false

/-- The entries that were called in a course and the recoveries, in order. Of what happened inside
an entry there is something only where it did not decline, and only so many levels down. -/
def Course.trail (below : Nat) : Course → List Passage
  | done => []
  | step p inside rest =>
    (match p.stage, below with
    | .run _, _ | .handler _, _ => inside.trail below
    | .recovery .., _ => p :: inside.trail below
    | .entry _ true _, _ | .entry _ false _, 0 => [p]
    | .entry _ false _, below + 1 => p :: if p.declines then [] else inside.trail below
    | .action _, _ | .predicate _, _ | .override .., _ => []) ++ rest.trail below

namespace Course

@[simp] theorem trail_done (below : Nat) : done.trail below = [] := rfl

@[simp] theorem trail_append (below : Nat) (s t : Course) :
    (s ++ t).trail below = s.trail below ++ t.trail below := by
  induction s with
  | done => simp
  | step p inside rest _ ih => simp only [step_append, trail, ih, List.append_assoc]

section

variable (below : Nat) (w w' : World) (e : Except Stop Value) (inside rest : Course)

@[simp] theorem trail_run (r : RouterRef) :
    (step ⟨.run r, w, e, w'⟩ inside rest).trail below =
      inside.trail below ++ rest.trail below := rfl

@[simp] theorem trail_handler (h : Handler) :
    (step ⟨.handler h, w, e, w'⟩ inside rest).trail below =
      inside.trail below ++ rest.trail below := rfl

@[simp] theorem trail_recovery (r : RouterRef) (f : Failure) :
    (step ⟨.recovery r f, w, e, w'⟩ inside rest).trail below =
      ⟨.recovery r f, w, e, w'⟩ :: (inside.trail below ++ rest.trail below) := rfl

@[simp] theorem trail_try (r : RouterRef) (i : Nat) :
    (step ⟨.entry r true i, w, e, w'⟩ inside rest).trail below =
      ⟨.entry r true i, w, e, w'⟩ :: rest.trail below := rfl

@[simp] theorem trail_entry_zero (r : RouterRef) (i : Nat) :
    (step ⟨.entry r false i, w, e, w'⟩ inside rest).trail 0 =
      ⟨.entry r false i, w, e, w'⟩ :: rest.trail 0 := rfl

theorem trail_entry_declined {p : Passage} {r : RouterRef} {i : Nat}
    (hp : p.stage = .entry r false i) (no : p.declines = true) :
    (step p inside rest).trail below = p :: rest.trail below := by
  cases below <;> simp [trail, hp, no]

theorem trail_entry_kept {p : Passage} {r : RouterRef} {i : Nat}
    (hp : p.stage = .entry r false i) (kept : p.declines = false) :
    (step p inside rest).trail (below + 1) =
      p :: (inside.trail below ++ rest.trail (below + 1)) := by
  simp [trail, hp, kept]

end

end Course

namespace Dispatch

open Exec

theorem callEntry_stage (calls : Calls) (inner : RouterRef → ContextRef → Exec Value)
    (r : RouterRef) (error : Bool) (c : ContextRef) (i : Nat) (w : World) :
    ∃ inside, callEntry calls inner r error c i w =
      ⟨.step ⟨.entry r error i, w, (callEntry calls inner r error c i w).result,
        (callEntry calls inner r error c i w).world⟩ inside .done,
        (callEntry calls inner r error c i w).result,
        (callEntry calls inner r error c i w).world⟩ :=
  ⟨_, rfl⟩

/-- What is called at some places, one after another, declines, and gets from one world to
another. -/
def Declines (call : Nat → Exec Value) : List Nat → World → World → Prop
  | [], w, w' => w' = w
  | i :: places, w, w' =>
    (∃ v, (call i w).result = .ok v ∧ v.isTruthy = false) ∧ Declines call places (call i w).world w'

/-- A run gets to a place of the chain of its router: the entries before it decline. -/
structure GetsTo (calls : Calls) (depth : Nat) (r : RouterRef) (c : ContextRef) (w : World)
    (i : Nat) (w' : World) : Prop where
  own : Assoc.get? (w.router r).overrides "run" = none
  lies : i < (w.router r).handlers.length
  declined : Declines (callEntry calls (run calls depth) r false c) (List.range i) w w'

/-- A run gets through mounts to an entry that fails. `levels` are the routers on the way, the
outermost one first. A level on the way sees again what it saw when its mount was entered, and the
innermost one what it saw when its entry failed. -/
inductive Reaches (calls : Calls) (c : ContextRef) :
    Nat → RouterRef → World → List Level → Failure → Prop
  | here {depth r w i w₁ f} (way : GetsTo calls depth r c w i w₁)
    (fails : (callEntry calls (run calls depth) r false c i w₁).result = .error (.failed f))
    (ordinary : f.isOrdinary = true)
    (own : Assoc.get? ((callEntry calls (run calls depth) r false c i w₁).world.router r).overrides
      "_recover" = none) :
    Reaches calls c (depth + 1) r w
      [.ofContext r i ((callEntry calls (run calls depth) r false c i w₁).world.context c)] f
  | inside {depth r w i w₁ e p child w₂ route captured rest levels f}
    (way : GetsTo calls depth r c w i w₁)
    (entry : (w₁.router r).handlers[i]? = some e)
    (mount : e.handler = .mount p child)
    (lets : LetsThrough (throughLayers r e) w₁ w₂)
    (hasRoute : (w₂.context c).demandRoute = .ok route)
    (cut : p.matchStart? route = some (captured, rest))
    (next : Reaches calls c depth child
      (w₂.setContext c (enterMount captured rest (w₂.context c))) levels f)
    (own : Assoc.get? ((callEntry calls (run calls depth) r false c i w₁).world.router r).overrides
      "_recover" = none) :
    Reaches calls c (depth + 1) r w (.ofContext r i (w₁.context c) :: levels) f

theorem firstMatchOr_declines {calls : Calls} {inner : RouterRef → ContextRef → Exec Value}
    {r : RouterRef} {c : ContextRef} {places : List Nat} {w w₁ : World}
    (h : Declines (callEntry calls inner r false c) places w w₁)
    (recover : Nat → Failure → Exec Bool) (more : List Nat) :
    ∃ course, (∀ below, (course.trail below).map Passage.stage = places.map (.entry r false)) ∧
      firstMatchOr recover (callEntry calls inner r false c) (places ++ more) w =
        let e := firstMatchOr recover (callEntry calls inner r false c) more w₁
        ⟨course ++ e.course, e.result, e.world⟩ := by
  induction places generalizing w with
  | nil =>
    obtain rfl : w₁ = w := h
    exact ⟨.done, fun _ => by simp, rfl⟩
  | cons i places ih =>
    obtain ⟨⟨v, hv, no⟩, rest⟩ := h
    obtain ⟨course, trail, eq⟩ := ih rest
    obtain ⟨inside, stage⟩ := callEntry_stage calls inner r false c i w
    rw [hv] at stage
    generalize (callEntry calls inner r false c i w).world = w' at stage eq
    refine ⟨.step ⟨.entry r false i, w, .ok v, w'⟩ inside course, fun below => ?_, ?_⟩
    · have declined : Passage.declines ⟨.entry r false i, w, .ok v, w'⟩ = true := by
        simp [Passage.declines, no]
      rw [Course.trail_entry_declined below inside course rfl declined]
      simp [trail]
    · rw [List.cons_append, firstMatchOr_declined stage no, eq]
      simp

section

variable {calls : Calls} {inner : RouterRef → ContextRef → Exec Value} {c : ContextRef}

/-- What the run of a router does before it gets to an entry is to call those before it. -/
theorem runLevel_getsTo {depth : Nat} {r : RouterRef} {w w₁ : World} {i : Nat}
    (way : GetsTo calls depth r c w i w₁) :
    ∃ course more, (∀ below, (course.trail below).map Passage.stage =
        (List.range i).map (.entry r false)) ∧
      runLevel calls (run calls depth) r c w =
        let e := firstMatchOr (recover calls (run calls depth) r c)
          (callEntry calls (run calls depth) r false c) (i :: more) w₁
        ⟨course ++ e.course, e.result, e.world⟩ := by
  obtain ⟨m, hm⟩ := Nat.exists_eq_add_of_lt way.lies
  have places : List.range (w.router r).handlers.length =
      List.range i ++ i :: (List.range m).map (i + · + 1) := by
    rw [hm, Nat.add_assoc, List.range_add, List.range_succ_eq_map]
    simp [Function.comp_def, Nat.add_assoc]
  obtain ⟨course, trail, eq⟩ := firstMatchOr_declines way.declined
    (recover calls (run calls depth) r c) (i :: (List.range m).map (i + · + 1))
  exact ⟨course, _, trail, by rw [runLevel_apply, places, eq]⟩

/-- The call of an entry that leads into a mount ends as the run of the router inside. The context
has the route from before again, and unless that run matched, the parameters. -/
theorem callEntry_mount (calls : Calls) (inner : RouterRef → ContextRef → Exec Value)
    (c : ContextRef) {r : RouterRef} {i : Nat} {w w₁ : World} {e : Entry} {p : Pattern}
    {child : RouterRef} {route rest : String} {captured : Params}
    (entry : (w.router r).handlers[i]? = some e) (mount : e.handler = .mount p child)
    (lets : LetsThrough (throughLayers r e) w w₁)
    (hasRoute : (w₁.context c).demandRoute = .ok route)
    (cut : p.matchStart? route = some (captured, rest)) :
    let ran := inner child c (w₁.setContext c (enterMount captured rest (w₁.context c)))
    ∃ left after, callEntry calls inner r false c i w =
        ⟨.step ⟨.entry r false i, w, ran.result, after⟩
          (.step ⟨.handler e.handler, w₁, ran.result, left⟩ ran.course .done) .done, ran.result,
          after⟩ ∧
      (after.context c).route = (w.context c).route ∧
      (ran.result.toOption.any Value.isTruthy = false →
        (after.context c).parameters = (w.context c).parameters) := by
  intro ran
  obtain ⟨after, alike, eq⟩ := lets.2 (handle calls inner e.handler c)
  let left := ran.world.setContext c
    (leaveMount (w₁.context c) ran.result.toOption (ran.world.context c))
  have handled : handle calls inner e.handler c w₁ =
      ⟨.step ⟨.handler e.handler, w₁, ran.result, left⟩ ran.course .done, ran.result, left⟩ := by
    rw [mount, handle, within_apply, handleMount_inside inner hasRoute cut]
  rw [handled] at alike eq
  refine ⟨left, after, ?_, ?_, fun no => ?_⟩
  · have there : ((w.router r).chain false)[i]? = some e := entry
    rw [callEntry_apply _ _ there, within_apply, eq]
  · rw [alike.context, ← lets.1.context]
    simp [left]
  · rw [alike.context, ← lets.1.context]
    simpa [left] using parameters_leaveMount no _ _

theorem Reaches.levels_ne_nil {depth : Nat} {r : RouterRef} {w : World} {levels : List Level}
    {f : Failure} (h : Reaches calls c depth r w levels f) : levels ≠ [] := by
  cases h <;> simp

theorem Reaches.ordinary {depth : Nat} {r : RouterRef} {w : World} {levels : List Level}
    {f : Failure} (h : Reaches calls c depth r w levels f) : f.isOrdinary = true := by
  induction h with
  | here _ _ ordinary => exact ordinary
  | inside _ _ _ _ _ _ _ _ ih => exact ih

def MatchesOrStops (result : Except Stop Value) : Prop :=
  result = .ok (.bool true) ∨ ∃ s, result = .error s

theorem MatchesOrStops.keeps {result : Except Stop Value} (h : MatchesOrStops result) (s : Stage)
    (w w' : World) : Passage.declines ⟨s, w, result, w'⟩ = false := by
  rcases h with rfl | ⟨stop, rfl⟩ <;> rfl

theorem firstMatchOr_kept (recover : Nat → Failure → Exec Bool) {call : Nat → Exec Value} {i : Nat}
    {w after : World} {called : Course} {result : Except Stop Value}
    (stage : call i w = ⟨called, result, after⟩) (kept : MatchesOrStops result)
    (more : List Nat) :
    (result = .ok (.bool true) ∧
      firstMatchOr recover call (i :: more) w = ⟨called, .ok true, after⟩) ∨
    (∃ g, g.isOrdinary = true ∧ result = .error (.failed g) ∧
      firstMatchOr recover call (i :: more) w =
        ⟨called ++ (recover i g after).course, (recover i g after).result,
          (recover i g after).world⟩) ∨
    ∃ s, s.isOrdinary = false ∧ result = .error s ∧
      firstMatchOr recover call (i :: more) w = ⟨called, .error s, after⟩ := by
  rcases kept with rfl | ⟨s, rfl⟩
  · exact .inl ⟨rfl, firstMatchOr_matched stage rfl more⟩
  · cases ordinary : s.isOrdinary with
    | true =>
      obtain ⟨g, rfl, hg⟩ := Stop.eq_failed ordinary
      exact .inr (.inl ⟨g, hg, rfl, firstMatchOr_failed stage hg more⟩)
    | false => exact .inr (.inr ⟨s, ordinary, rfl, firstMatchOr_stopped stage ordinary more⟩)

theorem recover_matchesOrStops {r : RouterRef} {w : World}
    (own : Assoc.get? (w.router r).overrides "_recover" = none) (i : Nat) (f : Failure) :
    MatchesOrStops ((recover calls inner r c i f w).result.map .bool) := by
  obtain ⟨line, -, hresult⟩ := recover_own calls inner own c i f
  rw [hresult]
  rcases (firstMatch _ _ _).result with s | matched
  · exact .inr ⟨s, rfl⟩
  · cases matched with
    | false => exact .inr ⟨_, rfl⟩
    | true => exact .inl rfl

/-- A run matches or ends early if an entry before which all others decline does. -/
theorem run_matchesOrStops {depth : Nat} {r : RouterRef} {w w₁ after : World} {i : Nat}
    {called : Course} {result : Except Stop Value} (way : GetsTo calls depth r c w i w₁)
    (stage : callEntry calls (run calls depth) r false c i w₁ = ⟨called, result, after⟩)
    (kept : MatchesOrStops result)
    (own : Assoc.get? (after.router r).overrides "_recover" = none) :
    MatchesOrStops (run calls (depth + 1) r c w).result := by
  obtain ⟨course, more, -, eq⟩ := runLevel_getsTo way
  rw [run_own calls way.own, eq]
  rcases firstMatchOr_kept (recover calls (run calls depth) r c) stage kept more with
    ⟨-, h⟩ | ⟨g, -, -, h⟩ | ⟨s, -, -, h⟩
  · rw [h]
    exact .inl rfl
  · rw [h]
    exact recover_matchesOrStops own i g
  · rw [h]
    exact .inr ⟨s, rfl⟩

theorem Reaches.matchesOrStops {depth : Nat} {r : RouterRef} {w : World} {levels : List Level}
    {f : Failure} (h : Reaches calls c depth r w levels f) :
    MatchesOrStops (run calls depth r c w).result := by
  induction h with
  | @here depth r w i w₁ f way fails ordinary own =>
    obtain ⟨inside, stage⟩ := callEntry_stage calls (run calls depth) r false c i w₁
    exact run_matchesOrStops way stage (.inr ⟨_, fails⟩) own
  | @inside depth r w i w₁ e p child w₂ route captured rest levels f way entry mount lets hasRoute
      cut next own ih =>
    obtain ⟨left, after, stage, -, -⟩ := callEntry_mount calls (run calls depth) c entry mount
      lets hasRoute cut
    rw [stage] at own
    exact run_matchesOrStops way stage ih own

/-- The entries that are called on the way through some levels. -/
def wayThrough (levels : List Level) : List Stage :=
  levels.flatMap fun l => (List.range (l.place + 1)).map (.entry l.router false)

theorem wayThrough_cons {r : RouterRef} {i : Nat} {levels : List Level} {p : Passage}
    {passed attempts : List Passage}
    (hpassed : passed.map Passage.stage = (List.range i).map (.entry r false))
    (hp : p.stage = .entry r false i) (hattempts : attempts.map Passage.stage = wayThrough levels)
    (ctx : Context) :
    (passed ++ p :: attempts).map Passage.stage = wayThrough (.ofContext r i ctx :: levels) := by
  rw [List.map_append, List.map_cons, hpassed, hp, hattempts]
  simp [wayThrough, List.range_succ, Level.ofContext]

end

end Dispatch
end HandlerChains
