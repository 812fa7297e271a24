import HandlerChains.Proofs.Dispatch.Answers
import HandlerChains.Proofs.Dispatch.Leaves

/-!
# Where a run is in its route

A run reads its route from the left. What is left of it and what was captured on the way is the
place of a context. Only three kinds of handlers have another place inside them than around them:
mounts, routes and endpoints. Going on to the next handler does not need more, since a handler that
declines leaves the place from before. So the place where something is called is found by going
through the handlers around it, whatever was tried before.
-/

namespace HandlerChains

/-- What is left of a route, and what was captured so far. -/
structure Place where
  route : Value
  parameters : Option (Assoc Value)

def Place.capture (here : Place) (captured : Params) : Place :=
  { here with parameters := some (Assoc.merge (here.parameters.getD []) captured.values) }

def Context.place (ctx : Context) : Place := ⟨ctx.route, ctx.parameters⟩

namespace Handler

def pattern? : Handler → Option Pattern
  | mount p _ | route p _ | endpoint _ p _ => some p
  | _ => none

/-- The place inside a handler, from the one around it. -/
inductive Opens : Handler → Place → Place → Prop where
  | mount {p child route captured rest} {here : Place} : here.route = .text route →
      p.matchStart? route = some (captured, rest) →
      Opens (.mount p child) here { here.capture captured with route := .text rest }
  | route {p a route captured} {here : Place} : here.route = .text route →
      p.matchWhole? route = some captured → Opens (.route p a) here (here.capture captured)
  | endpoint {method p a route captured} {here : Place} : here.route = .text route →
      p.matchWhole? route = some captured →
      Opens (.endpoint method p a) here (here.capture captured)
  | other {h here} : h.pattern? = none → Opens h here here

end Handler

/-- Handlers inside each other, the outermost one first, are entered at one place and lead to
another. All but the last one have routers inside them. -/
inductive Enters : List Handler → Place → Place → Prop where
  | nil {here} : Enters [] here here
  | leaf {h here there} : h.child? = none → h.Opens here there → Enters [h] here there
  | inside {h r around here next there} : h.child? = some r → h.Opens here next →
      Enters around next there → Enters (h :: around) here there

/-- A passage and the handlers around it, the outermost one first. -/
structure Site where
  around : List Handler
  passage : Passage

namespace Site

def under (h : Handler) (s : Site) : Site := { s with around := h :: s.around }

end Site

namespace Course

/-- The passages of a course with the handlers around them. What is inside a call does not belong to
the course around it, and recoveries are left out. -/
def sites : Course → List Site
  | done => []
  | step p inside rest =>
    (match p.stage with
    | .recovery .. => []
    | .handler h => ⟨[], p⟩ :: inside.sites.map (Site.under h)
    | .run _ | .entry .. => ⟨[], p⟩ :: inside.sites
    | .action _ | .predicate _ | .override .. => [⟨[], p⟩]) ++ rest.sites

@[simp] theorem sites_append (s t : Course) : (s ++ t).sites = s.sites ++ t.sites := by
  induction s with
  | done => rfl
  | step p inside rest _ ih => simp only [step_append, sites, ih, List.append_assoc]

end Course

/-- Whether a passage leaves it to handlers with patterns to change the place of a context: a call
that keeps it, and any handler but the one that seeds the route. -/
def Passage.KeepsPlace (c : ContextRef) (p : Passage) : Prop :=
  match p.stage with
  | .handler (.configure _) => False
  | .action _ | .predicate _ | .override .. =>
    (p.after.context c).place = (p.before.context c).place
  | _ => True

namespace Dispatch

open Exec World

/-- Nothing is met on the way, and the place is as it was. -/
structure Stays (c : ContextRef) (w : World) (t : Course) (w' : World) : Prop where
  sites : t.sites = []
  place : (w'.context c).place = (w.context c).place

theorem stays_sides (c : ContextRef) : SideInvariant (Stays c) where
  done _ := ⟨rfl, rfl⟩
  append hs ht := ⟨by rw [Course.sites_append, hs.sites, ht.sites, List.append_nil],
    ht.place.trans hs.place⟩
  event _ _ := ⟨rfl, rfl⟩
  line _ _ := ⟨rfl, rfl⟩
  modules _ _ := ⟨rfl, rfl⟩
  store _ _ _ := ⟨rfl, rfl⟩

theorem stays_setContext {c : ContextRef} {w : World} {ctx : Context}
    (same : ctx.place = (w.context c).place) : Stays c w .done (w.setContext c ctx) :=
  ⟨rfl, by rw [context_setContext_self, same]⟩

theorem offerMethod_stays (c : ContextRef) (v : Value) : Respects (Stays c) (offerMethod c v) := by
  intro w
  cases hv : (w.context c).offerMethod v with
  | error f => simpa [Exec.offerMethod, bind_apply, Exec.lift, hv] using (stays_sides c).done w
  | ok ctx =>
    obtain ⟨methods, rfl⟩ := Context.eq_of_offerMethod hv
    have same : Context.place { w.context c with methods } = (w.context c).place := rfl
    simpa [Exec.offerMethod, bind_apply, Exec.lift, hv] using stays_setContext same

/-- An execution that meets nothing and never ends with certain values. -/
structure Idle {α : Type} (no : α → Prop) (x : Exec α) : Prop where
  sites : ∀ w, (x w).course.sites = []
  never : Never no x

theorem Idle.of_stays {α : Type} {c : ContextRef} {no : α → Prop} {x : Exec α}
    (h : Respects (Stays c) x) (never : Never no x) : Idle no x :=
  ⟨fun w => (h w).sites, never⟩

/-- What is to be seen of an execution that began in a world: whatever it met is where the handlers
around it lead to, and if it ended with a value of a certain kind, the place is as it was. -/
structure TracksFrom {α : Type} (c : ContextRef) (leads : List Handler → Place → Place → Prop)
    (no : α → Prop) (w : World) (e : Ended α) : Prop where
  sites : ∀ s ∈ e.course.sites,
    leads s.around (w.context c).place (s.passage.before.context c).place
  kept : ∀ a, e.result = .ok a → no a → (e.world.context c).place = (w.context c).place

theorem TracksFrom.done {α : Type} {c : ContextRef} {leads : List Handler → Place → Place → Prop}
    {no : α → Prop} (w : World) (result : Except Stop α) :
    TracksFrom c leads no w ⟨.done, result, w⟩ where
  sites _ hs := absurd hs List.not_mem_nil
  kept _ _ _ := rfl

/-- Wherever an execution begins, that is to be seen of it if all that it meets leaves the place to
the patterns. -/
def Tracks {α : Type} (c : ContextRef) (leads : List Handler → Place → Place → Prop)
    (no : α → Prop) (x : Exec α) : Prop :=
  ∀ w, (∀ s ∈ (x w).course.sites, s.passage.KeepsPlace c) → TracksFrom c leads no w (x w)

def Here (around : List Handler) (here there : Place) : Prop := around = [] ∧ there = here

def Under (h : Handler) (around : List Handler) (here there : Place) : Prop :=
  Enters (h :: around) here there

namespace Tracks

variable {α β : Type} {c : ContextRef} {leads : List Handler → Place → Place → Prop}
variable {mid : α → Prop} {no : β → Prop}

theorem of_stays {x : Exec β} (h : Respects (Stays c) x) : Tracks c leads no x := by
  intro w _
  refine ⟨fun s hs => ?_, fun _ _ _ => (h w).place⟩
  rw [(h w).sites] at hs
  cases hs

theorem pure (a : β) : Tracks c leads no (Pure.pure a : Exec β) :=
  of_stays (.pure (stays_sides c).toComposes a)

theorem fail (f : Failure) : Tracks c leads no (Exec.fail f : Exec β) :=
  of_stays (.fail (stays_sides c).toComposes f)

theorem mono {x : Exec β} {leads' : List Handler → Place → Place → Prop} {no' : β → Prop}
    (hx : Tracks c leads' no' x) (h : ∀ around here there, leads' around here there →
      leads around here there) (h' : ∀ b, no b → no' b) : Tracks c leads no x :=
  fun w keeps => ⟨fun s hs => h _ _ _ ((hx w keeps).sites s hs),
    fun b ended hb => (hx w keeps).kept b ended (h' b hb)⟩

/-- Only after some values the place is as it was, and then the execution has to be tracked on.
After the others nothing more is met. -/
theorem bind {x : Exec α} {f : α → Exec β} (hx : Tracks c leads mid x)
    (hf : ∀ a, mid a → Tracks c leads no (f a)) (others : ∀ a, ¬ mid a → Idle no (f a)) :
    Tracks c leads no (x >>= f) := by
  intro w keeps
  rw [bind_apply] at keeps ⊢
  have first := hx w
  rcases hw : x w with ⟨course, stop | a, w'⟩
  · rw [hw] at keeps first
    exact ⟨(first keeps).sites, nofun⟩
  · rw [hw] at keeps first
    simp only [Ended.andThen_ok, Course.sites_append, List.forall_mem_append] at keeps first ⊢
    have first := first keeps.1
    by_cases goesOn : mid a
    · have same := first.kept a rfl goesOn
      have next := hf a goesOn w' keeps.2
      refine ⟨?_, fun b ended hb => (next.kept b ended hb).trans same⟩
      simp only [Course.sites_append, List.forall_mem_append]
      exact ⟨first.sites, same ▸ next.sites⟩
    · have idle := others a goesOn
      refine ⟨?_, fun b ended hb => absurd hb (idle.never w' b ended)⟩
      simp only [Course.sites_append, idle.sites w', List.append_nil]
      exact first.sites

theorem after {x : Exec α} {f : α → Exec β} (hx : Respects (Stays c) x)
    (hf : ∀ a, Tracks c leads no (f a)) : Tracks c leads no (x >>= f) := by
  have stays : Tracks c leads (fun _ => True) x := of_stays hx
  exact bind stays (fun a _ => hf a) fun _ other => absurd trivial other

theorem ite {p : Prop} [Decidable p] {x y : Exec β} (hx : Tracks c leads no x)
    (hy : Tracks c leads no y) : Tracks c leads no (if p then x else y) := by
  split
  · exact hx
  · exact hy

theorem idle_pure {b : β} (yes : ¬ no b) : Idle no (Pure.pure b : Exec β) :=
  ⟨fun _ => rfl, .pure yes⟩

theorem map {x : Exec α} {f : α → β} (hx : Tracks c leads (fun a => no (f a)) x) :
    Tracks c leads no (f <$> x) :=
  bind hx (fun _ _ => pure _) fun _ => idle_pure

theorem attempt {x : Exec β} (hx : Tracks c leads no x) :
    Tracks c leads (fun result => ∃ b, result = .ok b ∧ no b) (Exec.attempt x) := by
  intro w keeps
  rw [attempt_course] at keeps
  refine ⟨?_, ?_⟩
  · rw [attempt_course]
    exact (hx w keeps).sites
  · rintro _ ended ⟨b, rfl, hb⟩
    rw [attempt_world]
    refine (hx w keeps).kept b ?_ hb
    unfold Exec.attempt at ended
    rcases hw : x w with ⟨course, (f | name | _) | a, w'⟩ <;> simp only [hw] at ended
    · split at ended <;> cases ended
    · cases ended
    · cases ended
    · cases ended
      rfl

/-! ## Stages -/

variable {x : Exec Value} {no : Value → Prop}

theorem stage {s : Stage} (hx : Tracks c Enters no x)
    (shows : ∀ w e w' t,
      (Course.step ⟨s, w, e, w'⟩ t .done).sites = ⟨[], ⟨s, w, e, w'⟩⟩ :: t.sites) :
    Tracks c Enters no (within s x) := by
  intro w keeps
  simp only [within_apply, shows, List.forall_mem_cons] at keeps
  have inside := hx w keeps.2
  refine ⟨?_, inside.kept⟩
  simp only [within_apply, shows, List.forall_mem_cons]
  exact ⟨.nil, inside.sites⟩

theorem handler {h : Handler} (hx : Tracks c (Under h) no x) :
    Tracks c Enters no (within (.handler h) x) := by
  intro w keeps
  simp only [within_apply, Course.sites, List.append_nil, List.forall_mem_cons,
    List.forall_mem_map] at keeps
  have inside := hx w keeps.2
  refine ⟨?_, inside.kept⟩
  simp only [within_apply, Course.sites, List.append_nil, List.forall_mem_cons,
    List.forall_mem_map]
  exact ⟨.nil, inside.sites⟩

theorem call {s : Stage} (called : s.isCall = true) :
    Tracks c Here (fun _ => True) (within s x) := by
  intro w keeps
  have single : (within s x w).course.sites =
      [⟨[], ⟨s, w, (x w).result, (x w).world⟩⟩] := by
    cases s <;> first | rfl | cases called
  rw [single] at keeps
  refine ⟨fun site hs => ?_, fun _ _ _ => ?_⟩
  · rw [single] at hs
    cases List.mem_singleton.1 hs
    exact ⟨rfl, rfl⟩
  · have kept := keeps _ List.mem_cons_self
    cases s with
    | action a => exact kept
    | predicate q => exact kept
    | override r name => exact kept
    | _ => cases called

end Tracks

section

variable {calls : Calls} {inner : RouterRef → ContextRef → Exec Value} {c : ContextRef}
variable {leads : List Handler → Place → Place → Prop}

theorem tracks_judges : Judges (Stays c) (fun _ => Tracks c leads) fun _ => Idle where
  toSideInvariant := stays_sides c
  respects := .of_stays
  never := .of_stays
  bind := .bind
  attempt := .attempt

/-! ## Handlers -/

theorem trigger_tracks (a : Action) : Tracks c Here (fun _ => True) (trigger calls a c) :=
  .after ((stays_sides c).resolve a) fun _ => .call rfl

theorem serve_tracks (a : Action) : Tracks c Here (fun _ => True) (serve calls a c) :=
  .bind (trigger_tracks a) (fun _ _ => .pure _) fun _ other => absurd trivial other

theorem capture_cases (p : Pattern) (c : ContextRef) (w : World) :
    (∃ route captured, (w.context c).place.route = .text route ∧
      p.matchWhole? route = some captured ∧
      capture p c w = ⟨.done, .ok (some captured.values), w⟩) ∨
    capture p c w = ⟨.done, .ok none, w⟩ ∨ ∃ s, capture p c w = ⟨.done, .error s, w⟩ := by
  cases hr : (w.context c).demandRoute with
  | error f => exact .inr (.inr ⟨.failed f, by simp [capture, bind_apply, Exec.lift, hr]⟩)
  | ok route =>
    cases hm : p.matchWhole? route with
    | none => exact .inr (.inl (by simp [capture, bind_apply, Exec.lift, hr, hm]))
    | some captured =>
      have eq : capture p c w = ⟨.done, .ok (some captured.values), w⟩ := by
        simp [capture, bind_apply, Exec.lift, hr, hm]
      exact .inl ⟨route, captured, Context.demandRoute_eq_ok_iff.1 hr, hm, eq⟩

/-- What a handler without a router inside does after it has captured something: its action is
called at the place that it opens. -/
theorem serve_captured {h : Handler} {a : Action} {captured : Params} {w : World}
    (leaf : h.child? = none)
    (opens : h.Opens (w.context c).place ((w.context c).place.capture captured))
    (keeps : ∀ s ∈ ((do changeContext c fun ctx => ctx.mergeParameters captured.values
                        serve calls a c) w).course.sites, s.passage.KeepsPlace c) :
    TracksFrom c (Under h) IsNo w
      ((do changeContext c fun ctx => ctx.mergeParameters captured.values
           serve calls a c) w) := by
  have there : ((w.setContext c ((w.context c).mergeParameters captured.values)).context c).place =
      (w.context c).place.capture captured := by
    rw [context_setContext_self]
    rfl
  simp only [bind_apply, changeContext_apply, Ended.andThen_ok, Course.done_append] at keeps ⊢
  obtain ⟨sites, -⟩ := serve_tracks a _ keeps
  rw [there] at sites
  refine ⟨fun s hs => ?_, fun v ended no => absurd no (serve_never a _ v ended)⟩
  obtain ⟨alone, same⟩ := sites s hs
  rw [alone, same]
  exact .leaf leaf opens

theorem handleRoute_tracks (p : Pattern) (a : Action) :
    Tracks c (Under (.route p a)) IsNo (handleRoute calls p a c) := by
  intro w keeps
  obtain ⟨route, captured, here, found, eq⟩ | eq | ⟨s, eq⟩ := capture_cases p c w
  · have served : handleRoute calls p a c w =
        (do changeContext c fun ctx => ctx.mergeParameters captured.values
            serve calls a c) w := by
      simp [handleRoute, bind_apply, eq]
    rw [served] at keeps ⊢
    exact serve_captured rfl (.route here found) keeps
  · simp only [handleRoute, bind_apply, eq, Ended.andThen_ok]
    exact .done w _
  · simp only [handleRoute, bind_apply, eq, Ended.andThen_error]
    exact .done w _

theorem handleEndpoint_tracks (method : String) (p : Pattern) (a : Action) :
    Tracks c (Under (.endpoint method p a)) IsNo (handleEndpoint calls method p a c) := by
  have hR := (stays_sides c).toComposes
  intro w keeps
  obtain ⟨route, captured, here, found, eq⟩ | eq | ⟨s, eq⟩ := capture_cases p c w
  · cases ha : Context.demandText .method "upper" (w.context c).method with
    | error f =>
      have ended : handleEndpoint calls method p a c w = ⟨.done, .error (.failed f), w⟩ := by
        simp [handleEndpoint, bind_apply, eq, Exec.lift, ha]
      rw [ended]
      exact .done w _
    | ok asked =>
      by_cases same : Text.upper asked = method
      · have served : handleEndpoint calls method p a c w =
            (do changeContext c fun ctx => ctx.mergeParameters captured.values
                serve calls a c) w := by
          simp [handleEndpoint, bind_apply, eq, Exec.lift, ha, same]
        rw [served] at keeps ⊢
        exact serve_captured rfl (.endpoint here found) keeps
      · have offers : handleEndpoint calls method p a c w =
            (do offerMethod c (.text method)
                return Value.bool false) w := by
          simp [handleEndpoint, bind_apply, eq, Exec.lift, ha, same]
        have stays : Respects (Stays c) (do
            offerMethod c (.text method)
            return Value.bool false) :=
          .bind hR (offerMethod_stays c _) fun _ => .pure hR _
        rw [offers] at keeps ⊢
        exact Tracks.of_stays stays w keeps
  · simp only [handleEndpoint, bind_apply, eq, Ended.andThen_ok]
    exact .done w _
  · simp only [handleEndpoint, bind_apply, eq, Ended.andThen_error]
    exact .done w _

/-- The router inside a mount runs where the mount opens, and a no brings the place back. -/
theorem handleMount_tracks (p : Pattern) (child : RouterRef)
    (hinner : ∀ r, Tracks c Enters IsNo (inner r c)) :
    Tracks c (Under (.mount p child)) IsNo (handleMount inner p child c) := by
  intro w keeps
  obtain ⟨route, captured, rest, hr, hp⟩ | ⟨f, hm⟩ | hm := handleMount_cases inner p child c w
  · rw [handleMount_inside inner hr hp] at keeps ⊢
    have there : ((w.setContext c (enterMount captured rest (w.context c))).context c).place =
        { (w.context c).place.capture captured with route := .text rest } := by
      rw [context_setContext_self]
      rfl
    obtain ⟨sites, -⟩ := hinner child _ keeps
    rw [there] at sites
    refine ⟨fun s hs => ?_, fun v ended no => ?_⟩
    · exact .inside rfl (.mount (Context.demandRoute_eq_ok_iff.1 hr) hp) (sites s hs)
    · have no : v.isTruthy = false := no
      dsimp only at ended ⊢
      rw [context_setContext_self, ended]
      simp [leaveMount, Except.toOption, no, Context.place]
  · rw [hm]
    exact .done w _
  · rw [hm]
    exact .done w _

theorem through_tracks {r : RouterRef} {name : String} {own : Exec Value}
    (ho : Tracks c Enters IsNo own) : Tracks c Enters IsNo (through calls r name c own) := by
  refine .after (.router (stays_sides c).toComposes r) fun target => ?_
  split
  · refine (Tracks.call rfl).mono ?_ fun _ _ => trivial
    rintro _ _ _ ⟨rfl, rfl⟩
    exact .nil
  · exact .fail _
  · exact ho

theorem handle_tracks (h : Handler) (hinner : ∀ r, Tracks c Enters IsNo (inner r c)) :
    Tracks c Enters IsNo (handle calls inner h c) := by
  have hR := (stays_sides c).toComposes
  -- what has no pattern and no router inside calls its action where it is itself
  have alone {h : Handler} {x : Exec Value} (hx : Tracks c Here IsNo x)
      (plain : h.pattern? = none) (leaf : h.child? = none) :
      Tracks c Enters IsNo (within (.handler h) x) := by
    refine .handler (hx.mono ?_ fun _ no => no)
    rintro _ _ _ ⟨rfl, rfl⟩
    exact .leaf leaf (.other plain)
  have serves (a : Action) : Tracks c Here IsNo (serve calls a c) :=
    (serve_tracks a).mono (fun _ _ _ h => h) fun _ _ => trivial
  cases h with
  | callback a =>
    refine alone (.bind (trigger_tracks a) (fun _ _ => .pure _) ?_) rfl rfl
    exact fun _ other => absurd trivial other
  | always a => exact alone (serves a) rfl rfl
  | badMethod a => exact alone (.after (.context hR c) fun _ => .ite (serves a) (.pure _)) rfl rfl
  | conditional q a =>
    refine alone (.bind (.call rfl) (fun _ _ => .ite (serves a) (.pure _)) ?_) rfl rfl
    exact fun _ other => absurd trivial other
  | route p a => exact .handler (handleRoute_tracks p a)
  | endpoint method p a => exact .handler (handleEndpoint_tracks method p a)
  | setNamespace nameSpace =>
    exact alone (.after (.modify fun w => stays_setContext rfl) fun _ => .pure _) rfl rfl
  | mount p child => exact .handler (handleMount_tracks p child hinner)
  | configure base => exact fun w keeps => (keeps _ List.mem_cons_self).elim
  | router r =>
    refine .handler ((through_tracks (hinner r)).mono (fun around here there leads => ?_) ?_)
    · exact .inside rfl (.other rfl) leads
    · exact fun _ no => no
  | custom kind result => exact alone (.pure result) rfl rfl

/-! ## Runs -/

theorem callEntry_tracks (r : RouterRef) (error : Bool) (i : Nat)
    (hinner : ∀ r, Tracks c Enters IsNo (inner r c)) :
    Tracks c Enters IsNo (callEntry calls inner r error c i) := by
  refine .stage (.after (.router (stays_sides c).toComposes r) fun target => ?_) ?_
  · split
    · exact .pure _
    · exact tracks_judges.throughLayers r _ (handle_tracks _ hinner)
  · exact fun w e w' t => List.append_nil _

/-- What happens in a recovery does not count, and a recovery ends with a yes or fails. -/
theorem recover_idle (r : RouterRef) (i : Nat) (f : Failure) :
    Idle (· = false) (recover calls inner r c i f) := by
  refine ⟨fun w => ?_, recover_never r i f⟩
  have unmet : SideInvariant fun _ t _ => t.sites = [] :=
    { done := fun _ => rfl
      append := fun hs ht => by rw [Course.sites_append, hs, ht, List.append_nil]
      event := fun _ _ => rfl
      line := fun _ _ => rfl
      modules := fun _ _ => rfl
      store := fun _ _ _ => rfl }
  have hR := unmet.toComposes
  have faced : Respects (fun _ t _ => t.sites = [])
      (facing f c (tryErrorHandlers calls inner r c f)) := by
    intro w
    rw [facing_apply]
    rfl
  have recovered : Respects (fun _ t _ => t.sites = []) (recover calls inner r c i f) := by
    refine .bind hR (.router hR r) fun _ => .bind hR (.lift hR _) fun _ => ?_
    refine .bind hR (.router hR r) fun _ => .bind hR (unmet.debug r _) fun _ => ?_
    refine .bind hR faced fun answer => .ite (.pure hR _) ?_
    exact .bind hR (unmet.debug r _) fun _ => .fail hR f
  exact recovered w

/-- In a run everything that is met is where the handlers around it lead to. -/
theorem run_tracks (calls : Calls) (depth : Nat) (r : RouterRef) (c : ContextRef) :
    Tracks c Enters IsNo (run calls depth r c) := by
  induction depth generalizing r with
  | zero => exact .of_stays (.stop (stays_sides c).toComposes _)
  | succ depth ih =>
    have level : Tracks c Enters (· = false) (runLevel calls (run calls depth) r c) :=
      .after (.router (stays_sides c).toComposes r) fun _ =>
        tracks_judges.firstMatchOr (fun i => callEntry_tracks r false i ih) (recover_idle r) _
    have answers : Tracks c Enters IsNo (Value.bool <$> runLevel calls (run calls depth) r c) :=
      .map level
    exact .stage (through_tracks answers) fun w e w' t => List.append_nil _

end

end Dispatch
end HandlerChains
