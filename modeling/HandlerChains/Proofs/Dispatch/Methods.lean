import HandlerChains.Example.Routers
import HandlerChains.Proofs.Dispatch.Invariant
import Mathlib.Data.List.Basic

/-!
# The methods that a run has offered

An endpoint whose pattern matches the route and that is not for the method of the request offers its
own method. Neither mounts nor recoveries take it back, so a handler for bad methods finds what all
endpoints visited before it have offered, in whatever router they are.
-/

namespace HandlerChains

/-- The method that an endpoint offers where it is visited: its own, if its pattern matches the
route as it is there, and the request is for another method. -/
def Passage.offered (c : ContextRef) (p : Passage) : List String :=
  match p.stage with
  | .handler (.endpoint method pattern _) =>
    match (p.before.context c).demandRoute,
      Context.demandText .method "upper" (p.before.context c).method with
    | .ok route, .ok asked =>
      if (pattern.matchWhole? route).isSome ∧ Text.upper asked ≠ method then [method] else []
    | _, _ => []
  | _ => []

/-- A passage of a course, the methods that were offered before it, and what happened inside it. -/
structure Visit where
  earlier : List String
  passage : Passage
  inside : Course

namespace Course

variable (c : ContextRef)

/-- The methods that were offered in a course, in order. What a call does itself does not belong to
the course around it. -/
def offered : Course → List String
  | done => []
  | step p inside rest =>
    p.offered c ++ (if p.stage.isCall then [] else inside.offered) ++ rest.offered

/-- All passages in a course, in order, where some methods were offered before it. Those inside
calls do not belong to it. -/
def visits (earlier : List String) : Course → List Visit
  | done => []
  | step p inside rest =>
    let within := earlier ++ p.offered c
    ⟨earlier, p, inside⟩ ::
      if p.stage.isCall then rest.visits within
      else inside.visits within ++ rest.visits (within ++ inside.offered c)

@[simp] theorem offered_append (s t : Course) :
    (s ++ t).offered c = s.offered c ++ t.offered c := by
  induction s with
  | done => rfl
  | step p inside rest _ ih => simp [offered, ih]

@[simp] theorem visits_append (earlier : List String) (s t : Course) :
    (s ++ t).visits c earlier = s.visits c earlier ++ t.visits c (earlier ++ s.offered c) := by
  induction s generalizing earlier with
  | done => simp [visits, offered]
  | step p inside rest _ ih =>
    by_cases call : p.stage.isCall = true <;> simp [visits, offered, ih, call]

theorem visits_single (earlier : List String) {p : Passage} (own : p.stage.isCall = false)
    (inside : Course) :
    (step p inside done).visits c earlier =
      ⟨earlier, p, inside⟩ :: inside.visits c (earlier ++ p.offered c) := by
  simp [visits, own]

theorem offered_single {p : Passage} (own : p.stage.isCall = false) (inside : Course) :
    (step p inside done).offered c = p.offered c ++ inside.offered c := by
  simp [offered, own]

end Course

/-- Whether a passage leaves it to endpoints to change the methods of a context: a call that keeps
them, and any handler but the one that forgets them. -/
def Passage.KeepsMethods (c : ContextRef) (p : Passage) : Prop :=
  match p.stage with
  | .handler (.configure _) => False
  | .action _ | .predicate _ | .override .. =>
    (p.after.context c).methods = (p.before.context c).methods
  | _ => True

/-- Methods as a context has them: each of them where it was offered first. -/
def offeredMethods (methods : List String) : Value := .list (methods.eraseDups.map .text)

namespace Visit

/-- The action of a handler was called and came back, and the handler answered with a yes. -/
def Fires (v : Visit) (a : Action) : Prop :=
  v.passage.ending = .ok (.bool true) ∧
    ∃ q inside, v.inside = .step q inside .done ∧ q.stage = .action a ∧ ∃ r, q.ending = .ok r

/-- A handler answered with a no, and nothing was called. -/
def Declines (v : Visit) : Prop := v.passage.ending = .ok (.bool false) ∧ v.inside = .done

/-- What a visit of a handler for bad methods is to be like: it finds what was offered before it,
and it fires or declines by whether that is anything. -/
def Right (c : ContextRef) (v : Visit) : Prop :=
  ∀ a, v.passage.stage = .handler (.badMethod a) →
    (v.passage.before.context c).methods = offeredMethods v.earlier ∧
      ∀ answer, v.passage.ending = .ok answer →
        if v.earlier = [] then v.Declines else v.Fires a

end Visit

theorem Value.same_text (s t : String) : (Value.text s).same (.text t) = decide (s = t) := by
  have eq : (Value.text s).same (.text t) = (some (Key.text s) == some (Key.text t)) := by
    simp [Value.same, Value.key?]
  rw [eq]
  by_cases same : s = t <;> simp [same]

namespace Context

theorem offerMethod_offered {ctx : Context} {earlier : List String}
    (h : ctx.methods = offeredMethods earlier) (method : String) :
    ctx.offerMethod (.text method) =
      .ok { ctx with methods := offeredMethods (earlier ++ [method]) } := by
  have asked : hasMember ctx.methods (.text method) = .ok (decide (method ∈ earlier)) := by
    rw [h]
    simp only [offeredMethods, hasMember, List.any_map, Except.ok.injEq]
    rw [Bool.eq_iff_iff]
    simp [Value.same_text]
  have added : (earlier ++ [method]).eraseDups =
      if method ∈ earlier then earlier.eraseDups else earlier.eraseDups ++ [method] := by
    rw [List.eraseDups_append]
    by_cases old : method ∈ earlier <;> simp [List.removeAll, old, List.eraseDups_cons]
  unfold offerMethod
  rw [asked]
  by_cases old : method ∈ earlier
  · have same : { ctx with methods := offeredMethods earlier } = ctx := by rw [← h]
    simp only [old, decide_true, offeredMethods, added, if_true]
    exact congrArg Except.ok same.symm
  · simp only [old, decide_false, h, offeredMethods, added, if_false, List.map_append]
    rfl

end Context

/-- An endpoint is for the method that it was made with, without blanks around it and in upper
case. -/
theorem Handler.makeEndpoint_text {declared : String} {p : Pattern} {target : Target} {h : Handler}
    (made : makeEndpoint (.text declared) p target = .ok h) :
    ∃ a, h = .endpoint (Text.upper (Text.strip declared)) p a := by
  unfold makeEndpoint methodOf at made
  by_cases blank : Text.strip declared = ""
  · simp only [blank, if_true] at made
    cases made
  · simp only [blank, if_false] at made
    cases ha : Action.ofTarget target with
    | error f =>
      rw [ha] at made
      cases made
    | ok a =>
      rw [ha] at made
      cases made
      exact ⟨a, rfl⟩

namespace Dispatch

open Exec

/-- Where the methods of a context are those that were offered before, they are those offered so far
afterwards, and handlers for bad methods find them in between. -/
def MethodsFollow (c : ContextRef) (w : World) (t : Course) (w' : World) : Prop :=
  ∀ earlier, (w.context c).methods = offeredMethods earlier →
    (∀ v ∈ t.visits c earlier, v.passage.KeepsMethods c) →
      (w'.context c).methods = offeredMethods (earlier ++ t.offered c) ∧
        ∀ v ∈ t.visits c earlier, v.Right c

namespace MethodsFollow

variable {c : ContextRef} {w w' : World}

theorem unchanged (h : (w'.context c).methods = (w.context c).methods) :
    MethodsFollow c w .done w' := by
  intro earlier start _
  exact ⟨by simpa [Course.offered, h] using start, by simp [Course.visits]⟩

theorem append {w₁ w₂ w₃ : World} {s t : Course} (hs : MethodsFollow c w₁ s w₂)
    (ht : MethodsFollow c w₂ t w₃) : MethodsFollow c w₁ (s ++ t) w₃ := by
  intro earlier start kept
  simp only [Course.visits_append, List.mem_append, Course.offered_append] at kept ⊢
  obtain ⟨between, found⟩ := hs earlier start fun v hv => kept v (.inl hv)
  obtain ⟨final, found'⟩ := ht _ between fun v hv => kept v (.inr hv)
  refine ⟨by rw [final, List.append_assoc], ?_⟩
  rintro v (hv | hv)
  · exact found v hv
  · exact found' v hv

theorem stage {p : Passage} {t : Course} (own : p.stage.isCall = false) (none : p.offered c = [])
    (other : ∀ a, p.stage ≠ .handler (.badMethod a)) (inside : MethodsFollow c w t w') :
    MethodsFollow c w (.step p t .done) w' := by
  intro earlier start kept
  rw [Course.visits_single c earlier own, none, List.append_nil, List.forall_mem_cons] at kept
  rw [Course.visits_single c earlier own, Course.offered_single c own, none, List.append_nil,
    List.nil_append, List.forall_mem_cons]
  obtain ⟨final, found⟩ := inside earlier start kept.2
  exact ⟨final, fun a ha => absurd ha (other a), found⟩

theorem call {s : Stage} (called : s.isCall = true) (x : Exec Value) :
    Respects (MethodsFollow c) (within s x) := by
  intro w earlier start kept
  rw [within_apply] at kept ⊢
  have none : Passage.offered c ⟨s, w, (x w).result, (x w).world⟩ = [] := by
    cases s with
    | handler h => cases called
    | _ => rfl
  have same : ((x w).world.context c).methods = (w.context c).methods := by
    have kept := kept ⟨earlier, _, _⟩ List.mem_cons_self
    cases s with
    | action a => exact kept
    | predicate p => exact kept
    | override r name => exact kept
    | _ => cases called
  simp only [Course.offered, Course.visits, called, none, if_true, List.append_nil]
  refine ⟨same.trans start, ?_⟩
  intro v hv a ha
  obtain rfl := List.mem_singleton.1 hv
  simp only at ha
  rw [ha] at called
  cases called

end MethodsFollow

variable (calls : Calls) (c : ContextRef)

theorem methodsFollow_calls : CallInvariant calls c (MethodsFollow c) where
  done w := .unchanged rfl
  append := .append
  event _ _ := .unchanged rfl
  debugLine _ _ := .unchanged rfl
  modules _ _ := .unchanged rfl
  store _ _ _ := .unchanged rfl
  frame w ctx _ same := .unchanged (by simpa using same)
  action _ _ := .call rfl _
  predicate _ := .call rfl _
  override _ _ _ := .call rfl _

/-- An endpoint declines, fails, serves the request, or offers its method. -/
theorem handleEndpoint_cases (method : String) (p : Pattern) (a : Action) (w : World) :
    let endpoint : Passage := ⟨.handler (.endpoint method p a), w,
      (handleEndpoint calls method p a c w).result, (handleEndpoint calls method p a c w).world⟩
    (endpoint.offered c = [] ∧ (handleEndpoint calls method p a c w).course = .done ∧
      (handleEndpoint calls method p a c w).world = w) ∨
    (endpoint.offered c = [] ∧ ∃ captured, handleEndpoint calls method p a c w =
      (do changeContext c fun ctx => ctx.mergeParameters captured
          serve calls a c) w) ∨
    (endpoint.offered c = [method] ∧ handleEndpoint calls method p a c w =
      (do offerMethod c (.text method)
          return Value.bool false) w) := by
  dsimp only
  unfold Passage.offered
  cases hr : (w.context c).demandRoute with
  | error f => exact .inl (by simp [handleEndpoint, capture, bind_apply, Exec.lift, hr])
  | ok route =>
    cases hm : p.matchWhole? route with
    | none =>
      refine .inl ⟨?_, by simp [handleEndpoint, capture, bind_apply, Exec.lift, hr, hm]⟩
      dsimp only
      split <;> simp_all
    | some captured =>
      cases ha : Context.demandText .method "upper" (w.context c).method with
      | error f =>
        exact .inl (by simp [handleEndpoint, capture, bind_apply, Exec.lift, hr, hm, ha])
      | ok asked =>
        by_cases same : Text.upper asked = method
        · refine .inr (.inl ⟨by simp [hm, same], captured.values, ?_⟩)
          simp [handleEndpoint, capture, bind_apply, Exec.lift, hr, hm, ha, same]
        · refine .inr (.inr ⟨by simp [hm, same], ?_⟩)
          simp [handleEndpoint, capture, bind_apply, Exec.lift, hr, hm, ha, same]

theorem endpoint_follows (method : String) (p : Pattern) (a : Action) :
    Respects (MethodsFollow c)
      (within (.handler (.endpoint method p a)) (handleEndpoint calls method p a c)) := by
  have steps := methodsFollow_calls calls c
  intro w
  rw [within_apply]
  obtain ⟨none, course, world⟩ | ⟨none, captured, serves⟩ | ⟨offers, eq⟩ :=
    handleEndpoint_cases calls c method p a w
  · refine .stage rfl none (fun _ => nofun) ?_
    rw [course, world]
    exact .unchanged rfl
  · refine .stage rfl none (fun _ => nofun) ?_
    have served : Respects (MethodsFollow c) (do
        changeContext c fun ctx => ctx.mergeParameters captured
        serve calls a c) :=
      .bind steps.toComposes (steps.changeContext fun _ => ⟨rfl, rfl⟩) fun _ => steps.serve a
    rw [serves]
    exact served w
  · intro earlier start kept
    have added := Context.offerMethod_offered start method
    have ended : handleEndpoint calls method p a c w =
        ⟨.done, .ok (.bool false), w.setContext c
          { w.context c with methods := offeredMethods (earlier ++ [method]) }⟩ := by
      rw [eq]
      simp [Exec.offerMethod, bind_apply, added, Exec.lift]
    rw [Course.visits_single c earlier rfl, Course.offered_single c rfl, offers, ended]
    simp [Course.visits, Course.offered, Visit.Right]

theorem resolve_aside (a : Action) (w : World) :
    (resolve c a w).course = .done ∧ (resolve c a w).world.context c = w.context c := by
  have aside : QuietInvariant fun w t w' => t = .done ∧ w'.context c = w.context c := by
    constructor
    · constructor
      · exact fun _ => ⟨rfl, rfl⟩
      · rintro _ _ _ _ _ ⟨rfl, same⟩ ⟨rfl, same'⟩
        exact ⟨rfl, same'.trans same⟩
    all_goals
      intros
      exact ⟨rfl, rfl⟩
  exact aside.resolve a w

/-- An action that is served without a failure is called once, in the context as it is, and the
answer is a yes. -/
theorem serve_ok {a : Action} {w : World} {answer : Value}
    (ok : (serve calls a c w).result = .ok answer) :
    answer = .bool true ∧ ∃ q inside, (serve calls a c w).course = .step q inside .done ∧
      q.stage = .action a ∧ q.before.context c = w.context c ∧ ∃ r, q.ending = .ok r := by
  obtain ⟨quiet, same⟩ := resolve_aside c a w
  rcases hr : resolve c a w with ⟨course, s | found, w'⟩
  · simp [serve, trigger, bind_apply, hr] at ok
  · rcases ht : take calls c found.uptake w' with ⟨inside, s | r, w''⟩
    · simp [serve, trigger, bind_apply, hr, ht] at ok
    · rw [hr] at quiet same
      obtain rfl : course = .done := quiet
      have called : serve calls a c w =
          ⟨.step ⟨.action a, w', .ok r, w''⟩ inside .done, .ok (.bool true), w''⟩ := by
        simp [serve, trigger, bind_apply, hr, ht]
      rw [called] at ok ⊢
      exact ⟨(Except.ok.inj ok).symm, _, inside, rfl, rfl, same, r, rfl⟩

theorem isTruthy_offeredMethods (earlier : List String) :
    (offeredMethods earlier).isTruthy = !earlier.isEmpty := by
  cases earlier with
  | nil => rfl
  | cons method earlier => simp [offeredMethods, List.eraseDups_cons, Value.isTruthy]

/-- A handler for bad methods serves the request if anything was offered, and declines if not. -/
theorem handle_badMethod (inner : RouterRef → ContextRef → Exec Value) (a : Action) {w : World}
    {earlier : List String} (start : (w.context c).methods = offeredMethods earlier) :
    handle calls inner (.badMethod a) c w =
      within (.handler (.badMethod a))
        (if earlier = [] then pure (.bool false) else serve calls a c) w := by
  simp only [handle, within_apply, bind_apply, context_apply, Ended.andThen_ok, start,
    isTruthy_offeredMethods, Course.done_append]
  cases earlier <;> rfl

theorem badMethod_follows (inner : RouterRef → ContextRef → Exec Value) (a : Action) :
    Respects (MethodsFollow c) (handle calls inner (.badMethod a) c) := by
  have steps := methodsFollow_calls calls c
  intro w earlier start kept
  rw [handle_badMethod calls c inner a start, within_apply] at kept ⊢
  rw [Course.visits_single c earlier rfl, List.forall_mem_cons] at kept ⊢
  rw [Course.offered_single c rfl]
  by_cases none : earlier = []
  · subst none
    simp only [if_true, pure_apply] at kept ⊢
    refine ⟨by simpa [Passage.offered, Course.offered] using start, ?_, by simp [Course.visits]⟩
    rintro _ ⟨⟩
    refine ⟨start, fun _ _ => ?_⟩
    simp only [if_true]
    exact ⟨rfl, rfl⟩
  · simp only [none, if_false] at kept ⊢
    obtain ⟨final, found⟩ := steps.serve a w earlier start
      (by simpa [Passage.offered] using kept.2)
    refine ⟨by simpa [Passage.offered] using final, ?_, by simpa [Passage.offered] using found⟩
    rintro _ ⟨⟩
    refine ⟨start, fun answer ok => ?_⟩
    obtain ⟨rfl, q, inside, course, called, -, ended⟩ := serve_ok calls c ok
    simp only [none, if_false]
    exact ⟨ok, q, inside, course, called, ended⟩

theorem methodsFollow_invariant : WalkInvariant calls c (MethodsFollow c) where
  toCallInvariant := methodsFollow_calls calls c
  line _ _ := .unchanged rfl
  run _ _ _ _ _ h := .stage rfl rfl (fun _ => nofun) h
  entry _ _ _ _ _ _ stage h := stage ▸ .stage rfl rfl (fun _ => nofun) h
  recovery w r f e t w' h :=
    have entered : MethodsFollow c w .done (w.putFailure c (some f)) := .unchanged (by simp)
    have left : MethodsFollow c w' .done (w'.putFailure c (w.context c).failure) :=
      .unchanged (by simp)
    have walked : MethodsFollow c (w.putFailure c (some f))
        (.step ⟨.recovery r f, w.putFailure c (some f), e, w'⟩ t .done) w' :=
      .stage rfl rfl (fun _ => nofun) h
    entered.append (walked.append left)
  handle inner hinner h := by
    have steps := methodsFollow_calls calls c
    have hR := steps.toComposes
    have staged : ∀ {x : Exec Value}, (∀ m p a, h ≠ .endpoint m p a) → (∀ a, h ≠ .badMethod a) →
        Respects (MethodsFollow c) x → Respects (MethodsFollow c) (within (.handler h) x) := by
      intro x notEndpoint notBadMethod hx w
      refine .stage rfl ?_ ?_ (hx w)
      · cases h with
        | endpoint m p a => exact absurd rfl (notEndpoint m p a)
        | _ => rfl
      · intro a ha
        exact notBadMethod a (Stage.handler.inj ha)
    cases h with
    | callback a => exact staged nofun nofun (.bind hR (steps.trigger a) fun _ => .pure hR _)
    | always a => exact staged nofun nofun (steps.serve a)
    | badMethod a => exact badMethod_follows calls c inner a
    | conditional p a =>
      exact staged nofun nofun
        (.bind hR (steps.predicate p) fun _ => .ite (steps.serve a) (.pure hR _))
    | route p a => exact staged nofun nofun (steps.handleRoute p a)
    | endpoint method p a => exact endpoint_follows calls c method p a
    | setNamespace nameSpace =>
      exact staged nofun nofun
        (.bind hR (steps.changeContext fun _ => ⟨rfl, rfl⟩) fun _ => .pure hR _)
    | mount p child => exact staged nofun nofun (steps.handleMount p child hinner)
    | configure base =>
      intro w earlier start kept
      exact (kept _ List.mem_cons_self).elim
    | router r => exact staged nofun nofun (steps.through r _ (hinner r))
    | custom kind result => exact staged nofun nofun (.pure hR _)

/-- In a run that starts with no methods and in which nothing but endpoints changes them, a handler
for bad methods finds the methods that all endpoints visited before it have offered, each of them
once and in the order in which they were offered first. It fires if that is any, and declines if it
is none. What an endpoint offers is the method that it was made with, without blanks around it and
in upper case. -/
theorem run_bad_method_finds_offered (depth : Nat) (r : RouterRef) (w : World)
    (start : (w.context c).methods = .list [])
    (kept : ∀ v ∈ (run calls depth r c w).course.visits c [], v.passage.KeepsMethods c) :
    (∀ v ∈ (run calls depth r c w).course.visits c [], ∀ a,
      v.passage.stage = .handler (.badMethod a) →
        (v.passage.before.context c).methods = .list (v.earlier.eraseDups.map .text) ∧
          ∀ answer, v.passage.ending = .ok answer →
            (v.Fires a ↔ v.earlier ≠ []) ∧ (v.Declines ↔ v.earlier = [])) ∧
    ((run calls depth r c w).world.context c).methods =
      .list (((run calls depth r c w).course.offered c).eraseDups.map .text) ∧
    ∀ declared p target h, Handler.makeEndpoint (.text declared) p target = .ok h →
      ∃ a, h = .endpoint (Text.upper (Text.strip declared)) p a := by
  obtain ⟨final, found⟩ := (methodsFollow_invariant calls c).respects_run depth r w [] start kept
  refine ⟨?_, final, ?_⟩
  · intro v hv a bad
    obtain ⟨methods, answers⟩ := found v hv a bad
    refine ⟨methods, fun answer ok => ?_⟩
    have apart : ¬ (v.Fires a ∧ v.Declines) := by
      rintro ⟨⟨yes, -⟩, no, -⟩
      rw [yes] at no
      cases no
    have decided := answers answer ok
    by_cases none : v.earlier = []
    · simp only [none, if_true] at decided
      exact ⟨⟨fun fires => absurd ⟨fires, decided⟩ apart, fun some => absurd none some⟩,
        fun _ => none, fun _ => decided⟩
    · simp only [none, if_false] at decided
      exact ⟨⟨fun _ => none, fun _ => decided⟩, fun declines => absurd ⟨decided, declines⟩ apart,
        fun empty => absurd empty none⟩
  · intro declared p target h made
    exact Handler.makeEndpoint_text made

/-- Endpoints for other methods than that of the request, one of them in a router inside, and a
handler for bad methods after them. -/
def askedOtherwise : World :=
  let endpoint := fun method c => Handler.endpoint method (Small.letter c) (Small.action [])
  Small.world
    [Small.router [endpoint "POST" 'a', .router 1, .badMethod (Small.action [])],
      Small.router [endpoint "PUT" 'b', endpoint "DELETE" 'a', endpoint "POST" 'a']]
    { route := .text "a", method := .text "get" }

theorem askedOtherwise_finds_offered :
    (∀ v ∈ (run Small.calls 2 0 0 askedOtherwise).course.visits 0 [], v.passage.KeepsMethods 0) ∧
      ((run Small.calls 2 0 0 askedOtherwise).world.context 0).methods =
        .list [.text "POST", .text "DELETE"] := by
  have kept : ∀ v ∈ (run Small.calls 2 0 0 askedOtherwise).course.visits 0 [],
      v.passage.KeepsMethods 0 := by
    exact List.forall_iff_forall_mem.1 (by repeat' constructor)
  have offered : (run Small.calls 2 0 0 askedOtherwise).course.offered 0 =
      ["POST", "DELETE", "POST"] := by rfl
  have found := (run_bad_method_finds_offered Small.calls 0 2 0 askedOtherwise rfl kept).2.1
  rw [offered] at found
  exact ⟨kept, found⟩

end Dispatch
end HandlerChains
