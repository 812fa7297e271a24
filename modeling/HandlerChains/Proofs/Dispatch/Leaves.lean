import HandlerChains.Proofs.Dispatch.Methods

/-!
# Trying leaves

A leaf is a route or an endpoint. What comes of trying leaves on a route can be told from their
patterns: one of them matches, all of them decline, or one fails because the method of the request
is missing. Where routers do nothing besides their handlers, a walk along the leaves comes to just
that.
-/

namespace HandlerChains

/-- A route, or an endpoint if there is a method. -/
structure Leaf where
  method : Option String
  pattern : Pattern
  action : Action

def Leaf.handler : Leaf → Handler
  | ⟨none, p, a⟩ => .route p a
  | ⟨some method, p, a⟩ => .endpoint method p a

/-- What comes of trying leaves: the action that is called and what was captured for it, or none. -/
inductive Verdict where
  | matched (a : Action) (captured : Params)
  | declined
  | failed (f : Failure)

namespace Verdict

def result : Verdict → Except Stop Bool
  | matched _ _ => .ok true
  | declined => .ok false
  | failed f => .error (.failed f)

def outcome : Verdict → Outcome
  | matched _ _ => .matched
  | declined => .notMatched
  | failed f => .failed f

def served : Verdict → List (Action × Option (Assoc Value))
  | matched a captured => [(a, some (Assoc.merge [] captured.values))]
  | declined | failed _ => []

end Verdict

/-- A verdict, and the methods that were offered before it. -/
structure Judgement where
  verdict : Verdict
  offered : List String

namespace Judgement

/-- Where nothing has matched and nothing failed, what comes next counts. -/
def andThen (j next : Judgement) : Judgement :=
  match j.verdict with
  | .declined => ⟨next.verdict, j.offered ++ next.offered⟩
  | _ => j

theorem andThen_declined {j : Judgement} (h : j.verdict = .declined) (next : Judgement) :
    j.andThen next = ⟨next.verdict, j.offered ++ next.offered⟩ := by
  rw [andThen, h]

theorem andThen_decided {j : Judgement} (h : j.verdict ≠ .declined) (next : Judgement) :
    j.andThen next = j := by
  unfold andThen
  split
  · next hj => exact absurd hj h
  · rfl

theorem andThen_assoc (j k l : Judgement) : (j.andThen k).andThen l = j.andThen (k.andThen l) := by
  by_cases hj : j.verdict = .declined
  · rw [andThen_declined hj, andThen_declined hj]
    by_cases hk : k.verdict = .declined
    · rw [andThen_declined hk, andThen_declined (by exact hk), List.append_assoc]
    · rw [andThen_decided hk, andThen_decided (by exact hk)]
  · rw [andThen_decided hj, andThen_decided hj, andThen_decided hj]

end Judgement

/-- What comes of a leaf by what its pattern captures. An endpoint for another method offers its
own. -/
def Leaf.answer (asked : Value) (l : Leaf) : Option Params → Judgement
  | none => ⟨.declined, []⟩
  | some captured =>
    match l.method with
    | none => ⟨.matched l.action captured, []⟩
    | some method =>
      match Context.demandText .method "upper" asked with
      | .error f => ⟨.failed f, []⟩
      | .ok text =>
        if Text.upper text = method then ⟨.matched l.action captured, []⟩
        else ⟨.declined, [method]⟩

/-- What comes of trying leaves in order on a route. -/
def judge (asked : Value) (route : String) : List Leaf → Judgement
  | [] => ⟨.declined, []⟩
  | l :: leaves => (l.answer asked (l.pattern.matchWhole? route)).andThen (judge asked route leaves)

theorem judge_append (asked : Value) (route : String) (first second : List Leaf) :
    judge asked route (first ++ second) =
      (judge asked route first).andThen (judge asked route second) := by
  induction first with
  | nil => rfl
  | cons l first ih => rw [List.cons_append, judge, ih, judge, Judgement.andThen_assoc]

theorem judge_unmatched {asked : Value} {route : String} {leaves : List Leaf}
    (none : ∀ l ∈ leaves, l.pattern.matchWhole? route = Option.none) :
    judge asked route leaves = ⟨.declined, []⟩ := by
  induction leaves with
  | nil => rfl
  | cons l leaves ih =>
    have first := none l List.mem_cons_self
    have others := ih fun l hl => none l (List.mem_cons_of_mem _ hl)
    rw [judge, first, others]
    rfl

theorem judge_matched {asked : Value} {route : String} {leaves : List Leaf} {a : Action}
    {captured : Params} (h : (judge asked route leaves).verdict = .matched a captured) :
    ∃ l ∈ leaves, l.action = a := by
  induction leaves with
  | nil => cases h
  | cons l leaves ih =>
    rw [judge] at h
    by_cases first : (l.answer asked (l.pattern.matchWhole? route)).verdict = .declined
    · rw [Judgement.andThen_declined first] at h
      obtain ⟨l', hl', same⟩ := ih h
      exact ⟨l', List.mem_cons_of_mem _ hl', same⟩
    · rw [Judgement.andThen_decided first] at h
      refine ⟨l, List.mem_cons_self, ?_⟩
      unfold Leaf.answer at h
      repeat' split at h
      all_goals cases h
      all_goals rfl

theorem Params.values_append (first second : Params) :
    Params.values (first ++ second) = first.values ++ second.values := List.map_append

def Passage.served (c : ContextRef) (p : Passage) : List (Action × Option (Assoc Value)) :=
  match p.stage with
  | .action a => [(a, (p.before.context c).parameters)]
  | _ => []

namespace Course

variable (c : ContextRef)

/-- The actions that were called in a course, in order, each with the parameters that it found. What
a call does itself does not belong to the course around it. -/
def served : Course → List (Action × Option (Assoc Value))
  | done => []
  | step p inside rest =>
    p.served c ++ (if p.stage.isCall then [] else inside.served) ++ rest.served

@[simp] theorem served_done : done.served c = [] := rfl

@[simp] theorem served_append (s t : Course) : (s ++ t).served c = s.served c ++ t.served c := by
  induction s with
  | done => rfl
  | step p inside rest _ ih => simp [served, ih]

theorem served_stage {p : Passage} (own : p.stage.isCall = false) (inside : Course) :
    (step p inside done).served c = inside.served c := by
  have none : p.served c = [] := by
    unfold Passage.served
    split
    · next h =>
      rw [h] at own
      cases own
    · rfl
  simp [served, own, none]

theorem served_call {p : Passage} {a : Action} (called : p.stage = .action a) (inside : Course) :
    (step p inside done).served c = [(a, (p.before.context c).parameters)] := by
  simp [served, Passage.served, called, Stage.isCall]

end Course

/-- A router that does nothing besides its handlers: it handles no failures, nothing is in the place
of what it does by itself, and no plugin is on the way to its handlers. -/
structure Router.IsPlain (r : Router) : Prop where
  run : Assoc.get? r.overrides "run" = none
  recover : Assoc.get? r.overrides "_recover" = none
  errorHandlers : r.errorHandlers = []
  layers : ∀ e ∈ r.handlers, e.layers = []

/-- Two worlds that are the same but for a context. -/
def World.SameBut (c : ContextRef) (w v : World) : Prop :=
  ∀ ctx, v.setContext c ctx = w.setContext c ctx

namespace World.SameBut

variable {c : ContextRef} {w v : World}

theorem refl (w : World) : SameBut c w w := fun _ => rfl

theorem setContext (h : SameBut c w v) (ctx : Context) : SameBut c w (v.setContext c ctx) := by
  intro ctx'
  rw [setContext_setContext, h]

theorem router_eq (h : SameBut c w v) (r : RouterRef) : v.router r = w.router r := by
  have same := congrArg (fun u : World => u.router r) (h default)
  simpa using same

end World.SameBut

theorem Context.demandRoute_eq_ok_iff {ctx : Context} {route : String} :
    ctx.demandRoute = .ok route ↔ ctx.route = .text route := by
  unfold demandRoute
  constructor
  · intro h
    cases hr : ctx.route <;> rw [hr] at h <;> cases h
    rfl
  · intro h
    rw [h]
    rfl

theorem Context.demandRoute_ordinary {ctx : Context} {f : Failure}
    (h : ctx.demandRoute = .error f) : f.isOrdinary = true := by
  unfold demandRoute at h
  cases hr : ctx.route <;> rw [hr] at h <;> cases h <;> rfl

theorem Context.demandText_ordinary {field : Field} {asked : String} {v : Value} {f : Failure}
    (h : demandText field asked v = .error f) : f.isOrdinary = true := by
  cases v <;> cases h <;> rfl

namespace Dispatch

open Exec

/-- Wherever the context differs at most in its route, its parameters and the methods on offer, an
action ends without a failure and leaves the context as it is. -/
def Steady (calls : Calls) (c : ContextRef) (w : World) (a : Action) : Prop :=
  ∀ route parameters methods,
    let ctx := { w.context c with route, parameters, methods := .list methods }
    (∃ v, (trigger calls a c (w.setContext c ctx)).result = .ok v) ∧
      (trigger calls a c (w.setContext c ctx)).world.context c = ctx

/-- A context on its way through a tree of routers: the route that is left, what was captured so far
and what was offered. Nothing else has changed. -/
structure At (c : ContextRef) (w : World) (route : Value) (captured : Params)
    (offered : List String) (v : World) : Prop where
  same : w.SameBut c v
  context : ∃ parameters, parameters.getD [] = Assoc.merge [] captured.values ∧
    v.context c =
      { w.context c with route, parameters, methods := offeredMethods offered }

/-- What is to be seen of an execution that was judged before: how it ended, what it called, and
what it offered after what had been offered. Where it declined, the context is as it was but for the
methods; where it failed, the routers are as they were. -/
structure Comes {α : Type} (answer : Bool → α) (c : ContextRef) (w : World) (route : Value)
    (captured : Params) (offered : List String) (j : Judgement) (e : Ended α) : Prop where
  result : e.result = j.verdict.result.map answer
  served : e.course.served c = j.verdict.served
  methods : (e.world.context c).methods = offeredMethods (offered ++ j.offered)
  goesOn : j.verdict = .declined → At c w route captured (offered ++ j.offered) e.world
  fails : ∀ f, j.verdict = .failed f → f.isOrdinary = true ∧ ∀ r, e.world.router r = w.router r

variable {calls : Calls} {inner : RouterRef → ContextRef → Exec Value} {c : ContextRef}
variable {w v : World} {route : Value} {text : String} {captured : Params} {offered : List String}

namespace At

theorem start (parameters : (w.context c).parameters = none)
    (methods : (w.context c).methods = .list []) : At c w (w.context c).route [] [] w where
  same := .refl w
  context := by
    refine ⟨none, rfl, ?_⟩
    generalize w.context c = ctx at *
    cases ctx
    cases parameters
    cases methods
    rfl

theorem route_eq (h : At c w route captured offered v) : (v.context c).route = route := by
  obtain ⟨_, -, kept⟩ := h.context
  rw [kept]

theorem methods_eq (h : At c w route captured offered v) :
    (v.context c).methods = offeredMethods offered := by
  obtain ⟨_, -, kept⟩ := h.context
  rw [kept]

theorem method_eq (h : At c w route captured offered v) :
    (v.context c).method = (w.context c).method := by
  obtain ⟨_, -, kept⟩ := h.context
  rw [kept]

theorem demandRoute_eq (h : At c w (.text text) captured offered v) :
    (v.context c).demandRoute = .ok text :=
  Context.demandRoute_eq_ok_iff.2 h.route_eq

theorem capture_apply (h : At c w (.text text) captured offered v) (p : Pattern) :
    capture p c v = ⟨.done, .ok ((p.matchWhole? text).map Params.values), v⟩ := by
  simp [capture, bind_apply, Exec.lift, h.demandRoute_eq]

theorem offer (h : At c w route captured offered v) (methods : List String) :
    At c w route captured methods
      (v.setContext c { v.context c with methods := offeredMethods methods }) where
  same := h.same.setContext _
  context := by
    obtain ⟨parameters, merged, kept⟩ := h.context
    exact ⟨parameters, merged, by rw [World.context_setContext_self, kept]⟩

end At

namespace Comes

variable {α : Type} {answer : Bool → α} {j : Judgement}

theorem declined (h : At c w route captured offered v) :
    Comes answer c w route captured offered ⟨.declined, []⟩ ⟨.done, .ok (answer false), v⟩ where
  result := rfl
  served := rfl
  methods := by rw [h.methods_eq, List.append_nil]
  goesOn _ := by rwa [List.append_nil]
  fails := nofun

theorem failed (h : At c w route captured offered v) {f : Failure} (hf : f.isOrdinary = true) :
    Comes answer c w route captured offered ⟨.failed f, []⟩
      ⟨.done, .error (.failed f), v⟩ where
  result := rfl
  served := rfl
  methods := by rw [h.methods_eq, List.append_nil]
  goesOn := nofun
  fails := by
    rintro _ ⟨⟩
    exact ⟨hf, h.same.router_eq⟩

theorem stage {s : Stage} (own : s.isCall = false) {x : Exec Value}
    (h : Comes .bool c w route captured offered j (x v)) :
    Comes .bool c w route captured offered j (within s x v) where
  result := h.result
  served := by
    rw [within_apply, Course.served_stage c own]
    exact h.served
  methods := h.methods
  goesOn := h.goesOn
  fails := h.fails

end Comes

theorem serve_apply (a : Action) (w : World) :
    serve calls a c w = ⟨(trigger calls a c w).course,
      (trigger calls a c w).result.map fun _ => .bool true, (trigger calls a c w).world⟩ :=
  map_apply (fun _ => Value.bool true) (trigger calls a c) w

/-- A steady action is served with what was captured among the parameters. -/
theorem serve_comes {a : Action} (steady : Steady calls c w a) (h : At c w route captured offered v)
    (more : Params) :
    Comes .bool c w route captured offered ⟨.matched a (captured ++ more), []⟩
      ((do changeContext c fun ctx => ctx.mergeParameters more.values
           serve calls a c) v) := by
  obtain ⟨parameters, merged, kept⟩ := h.context
  let found := Assoc.merge [] (Params.values (captured ++ more))
  let ctx : Context :=
    { w.context c with
      route, parameters := some found, methods := .list (offered.eraseDups.map .text) }
  have entered : (v.context c).mergeParameters more.values = ctx := by
    have both : found = Assoc.merge (parameters.getD []) more.values := by
      rw [merged, ← Assoc.merge_append, ← Params.values_append]
    simp only [kept, ctx, both]
    rfl
  have moved : v.setContext c ctx = w.setContext c ctx := h.same ctx
  obtain ⟨⟨r, ends⟩, unchanged⟩ := steady route (some found) (offered.eraseDups.map .text)
  have ok : (serve calls a c (w.setContext c ctx)).result = .ok (.bool true) := by
    rw [serve_apply, ends]
    rfl
  obtain ⟨-, q, inside, course, called, before, -⟩ := serve_ok calls c ok
  have parameters : (q.before.context c).parameters = some found := by
    rw [before, World.context_setContext_self]
  have methods : ((serve calls a c (w.setContext c ctx)).world.context c).methods =
      offeredMethods offered := by
    rw [serve_apply, unchanged]
    rfl
  have eq : (do changeContext c fun ctx => ctx.mergeParameters more.values
                serve calls a c) v = serve calls a c (w.setContext c ctx) := by
    simp only [bind_apply, changeContext_apply, Ended.andThen_ok, Course.done_append, entered,
      moved]
  rw [eq]
  exact
    { result := ok
      served := by rw [course, Course.served_call c called, parameters]; rfl
      methods := by rw [methods, List.append_nil]
      goesOn := nofun
      fails := nofun }

theorem offer_comes (h : At c w route captured offered v) (method : String) :
    Comes .bool c w route captured offered ⟨.declined, [method]⟩
      ((do offerMethod c (.text method)
           return Value.bool false) v) := by
  have added := Context.offerMethod_offered h.methods_eq method
  have eq : (do offerMethod c (.text method)
                return Value.bool false) v =
      ⟨.done, .ok (.bool false), v.setContext c
        { v.context c with methods := offeredMethods (offered ++ [method]) }⟩ := by
    simp [Exec.offerMethod, bind_apply, added, Exec.lift]
  rw [eq]
  exact
    { result := rfl
      served := rfl
      methods := by rw [World.context_setContext_self]
      goesOn := fun _ => h.offer _
      fails := fun _ failed => by cases failed }

theorem handleRoute_comes {p : Pattern} {a : Action} (steady : Steady calls c w a)
    (h : At c w (.text text) captured offered v) :
    Comes .bool c w (.text text) captured offered
      (Leaf.answer (w.context c).method ⟨none, p, a⟩
        ((p.matchWhole? text).map fun more => captured ++ more))
      (handleRoute calls p a c v) := by
  cases found : p.matchWhole? text with
  | none =>
    have eq : handleRoute calls p a c v = ⟨.done, .ok (.bool false), v⟩ := by
      simp [handleRoute, bind_apply, h.capture_apply, found]
    rw [eq]
    exact .declined h
  | some more =>
    have eq : handleRoute calls p a c v =
        (do changeContext c fun ctx => ctx.mergeParameters more.values
            serve calls a c) v := by
      simp [handleRoute, bind_apply, h.capture_apply, found]
    rw [eq]
    exact serve_comes steady h more

theorem handleEndpoint_comes {method : String} {p : Pattern} {a : Action}
    (steady : Steady calls c w a) (h : At c w (.text text) captured offered v) :
    Comes .bool c w (.text text) captured offered
      (Leaf.answer (w.context c).method ⟨some method, p, a⟩
        ((p.matchWhole? text).map fun more => captured ++ more))
      (handleEndpoint calls method p a c v) := by
  cases found : p.matchWhole? text with
  | none =>
    have eq : handleEndpoint calls method p a c v = ⟨.done, .ok (.bool false), v⟩ := by
      simp [handleEndpoint, bind_apply, h.capture_apply, found]
    rw [eq]
    exact .declined h
  | some more =>
    simp only [Leaf.answer, Option.map_some]
    cases demanded : Context.demandText .method "upper" (w.context c).method with
    | error f =>
      have eq : handleEndpoint calls method p a c v = ⟨.done, .error (.failed f), v⟩ := by
        simp [handleEndpoint, bind_apply, h.capture_apply, found, h.method_eq, demanded, Exec.lift]
      rw [eq]
      exact .failed h (Context.demandText_ordinary demanded)
    | ok asked =>
      by_cases same : Text.upper asked = method
      · have eq : handleEndpoint calls method p a c v =
            (do changeContext c fun ctx => ctx.mergeParameters more.values
                serve calls a c) v := by
          simp [handleEndpoint, bind_apply, h.capture_apply, found, h.method_eq, demanded,
            Exec.lift, same]
        simp only [same, if_true]
        rw [eq]
        exact serve_comes steady h more
      · have eq : handleEndpoint calls method p a c v =
            (do offerMethod c (.text method)
                return Value.bool false) v := by
          simp [handleEndpoint, bind_apply, h.capture_apply, found, h.method_eq, demanded,
            Exec.lift, same]
        simp only [same, if_false]
        rw [eq]
        exact offer_comes h method

/-- A leaf does what its pattern says. -/
theorem leaf_comes (inner : RouterRef → ContextRef → Exec Value) {l : Leaf}
    (steady : Steady calls c w l.action) (h : At c w (.text text) captured offered v) :
    Comes .bool c w (.text text) captured offered
      (l.answer (w.context c).method
        ((l.pattern.matchWhole? text).map fun more => captured ++ more))
      (handle calls inner l.handler c v) := by
  obtain ⟨method, p, a⟩ := l
  cases method with
  | none => exact Comes.stage (x := handleRoute calls p a c) rfl (handleRoute_comes steady h)
  | some method =>
    exact Comes.stage (x := handleEndpoint calls method p a c) rfl (handleEndpoint_comes steady h)

/-! ## Walks along plain routers -/

/-- A walk along the handlers of a router, from a place on. -/
def walk (calls : Calls) (inner : RouterRef → ContextRef → Exec Value) (r : RouterRef)
    (c : ContextRef) (i size : Nat) : Exec Bool :=
  firstMatchOr (recover calls inner r c) (callEntry calls inner r false c) (List.range' i size)

theorem callEntry_plain {r : RouterRef} {i : Nat} {e : Entry} (plain : (v.router r).IsPlain)
    (he : (v.router r).handlers[i]? = some e) :
    callEntry calls inner r false c i v =
      within (.entry r false i) (handle calls inner e.handler c) v := by
  have there : ((v.router r).chain false)[i]? = some e := he
  rw [callEntry_apply _ _ there, throughLayers, plain.layers e (List.mem_of_getElem? he)]
  rfl

theorem recover_plain (calls : Calls) (inner : RouterRef → ContextRef → Exec Value)
    (c : ContextRef) {r : RouterRef} (plain : (v.router r).IsPlain) (i : Nat) (f : Failure) :
    let e := recover calls inner r c i f v
    e.result = .error (.failed f) ∧ e.course.served c = [] ∧
      (e.world.context c).methods = (v.context c).methods ∧
      ∀ s, e.world.router s = v.router s := by
  intro e
  have lets : (v.router r).expect "_recover" (.several 3) = .ok () := by
    simp [Router.expect, plain.recover]
  simp only [e, recover, bind_apply, router_apply, Ended.andThen_ok, lets, Exec.lift, pure_apply,
    debug_apply, facing_apply, tryErrorHandlers_apply, World.router_putFailure,
    World.router_logLine, plain.errorHandlers]
  simp [firstMatch, Except.map, Value.isTruthy, bind_apply, debug_apply, Course.served,
    Passage.served, Stage.isCall]

theorem walk_comes_nil (h : At c w route captured offered v) (r : RouterRef) (i : Nat) :
    Comes id c w route captured offered ⟨.declined, []⟩ (walk calls inner r c i 0 v) :=
  .declined h

/-- A walk comes to what its first handler comes to, and then to what the others come to. -/
theorem walk_comes_cons {r : RouterRef} {i size : Nat} {e : Entry} {j next : Judgement}
    (same : w.SameBut c v) (plain : (w.router r).IsPlain)
    (he : (w.router r).handlers[i]? = some e)
    (first : Comes .bool c w route captured offered j (handle calls inner e.handler c v))
    (others : j.verdict = .declined → ∀ v', At c w route captured (offered ++ j.offered) v' →
      Comes id c w route captured (offered ++ j.offered) next
        (walk calls inner r c (i + 1) size v')) :
    Comes id c w route captured offered (j.andThen next)
      (walk calls inner r c i (size + 1) v) := by
  have called : Comes .bool c w route captured offered j (callEntry calls inner r false c i v) := by
    rw [← same.router_eq] at plain he
    rw [callEntry_plain plain he]
    exact .stage rfl first
  have split : List.range' i (size + 1) = i :: List.range' (i + 1) size := List.range'_succ
  rcases hc : callEntry calls inner r false c i v with ⟨course, result, v'⟩
  rw [hc] at called
  obtain ⟨hresult, hserved, hmethods, goesOn, fails⟩ := called
  obtain ⟨verdict, before⟩ := j
  subst hresult
  cases verdict with
  | matched a found =>
    have ended : walk calls inner r c i (size + 1) v = ⟨course, .ok true, v'⟩ := by
      rw [walk, split, firstMatchOr_matched hc rfl]
    rw [ended, Judgement.andThen_decided (by simp)]
    exact ⟨rfl, hserved, hmethods, nofun, nofun⟩
  | declined =>
    obtain ⟨result', served', methods', goesOn', fails'⟩ := others rfl v' (goesOn rfl)
    have ended : walk calls inner r c i (size + 1) v =
        ⟨course ++ (walk calls inner r c (i + 1) size v').course,
          (walk calls inner r c (i + 1) size v').result,
          (walk calls inner r c (i + 1) size v').world⟩ := by
      rw [walk, split, firstMatchOr_declined hc rfl]
      rfl
    rw [ended, Judgement.andThen_declined rfl]
    refine ⟨result', ?_, ?_, ?_, fails'⟩
    · rw [Course.served_append, hserved, served']
      rfl
    · rw [methods', List.append_assoc]
    · intro hd
      rw [← List.append_assoc]
      exact goesOn' hd
  | failed f =>
    obtain ⟨ordinary, routers⟩ := fails f rfl
    have plain' : (v'.router r).IsPlain := by rwa [routers r]
    obtain ⟨failed, quiet, methods', routers'⟩ := recover_plain calls inner c plain' i f
    have ended : walk calls inner r c i (size + 1) v =
        ⟨course ++ (recover calls inner r c i f v').course,
          (recover calls inner r c i f v').result, (recover calls inner r c i f v').world⟩ := by
      rw [walk, split, firstMatchOr_failed hc ordinary]
    rw [ended, Judgement.andThen_decided (by simp)]
    refine ⟨failed, ?_, ?_, nofun, ?_⟩
    · rw [Course.served_append, hserved, quiet]
      rfl
    · rw [methods', hmethods]
    · rintro _ ⟨⟩
      exact ⟨ordinary, fun s => (routers' s).trans (routers s)⟩

end Dispatch
end HandlerChains
