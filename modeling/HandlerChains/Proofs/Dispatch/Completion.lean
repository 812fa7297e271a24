import HandlerChains.Example.Routers
import HandlerChains.Proofs.Dispatch.Invariant
import HandlerChains.Proofs.Dispatch.Mount
import HandlerChains.Proofs.Dispatch.Trees
import Mathlib.Data.List.Basic

/-!
# Completed actions

Among handlers that answer with a yes once their action has returned, nothing is called after an
action that completes: the answer goes out through all mounts, recoveries and chains. So a run that
matches is one in which exactly one action completes, and in any other run none does.
-/

namespace HandlerChains

open Containment

def Passage.completes (p : Passage) : Bool :=
  match p.stage, p.ending with
  | .action _, .ok _ => true
  | _, _ => false

namespace Course

/-- How many calls of actions come back, also inside other calls. -/
def completed : Course → Nat
  | done => 0
  | step p inside rest => (if p.completes then 1 else 0) + inside.completed + rest.completed

@[simp] theorem completed_append (s t : Course) :
    (s ++ t).completed = s.completed + t.completed := by
  induction s with
  | done => simp [completed]
  | step p inside rest _ ih => simp [completed, ih, Nat.add_assoc]

end Course

namespace Handler

/-- Whether a handler answers with a yes exactly if its action returned, or leads to a router. -/
def isSimple : Handler → Bool
  | callback _ | custom .. => false
  | _ => true

end Handler

/-- A router of simple handlers that runs as routers do by themselves. -/
structure Router.IsSimple (r : Router) : Prop where
  handlers : ∀ e ∈ r.entries, e.handler.isSimple = true
  plugins : ∀ e ∈ r.entries, ∀ p ∈ e.layers, p.watches = true
  run : Assoc.get? r.overrides "run" = none
  handle : Assoc.get? r.overrides "handle" = none

theorem Router.isSimple_default : (default : Router).IsSimple :=
  ⟨by decide, by decide, rfl, rfl⟩

namespace World

def SimpleTree (w : World) (r : RouterRef) : Prop :=
  ∀ s, Contains (fun s => (w.router s).children) r s → (w.router s).IsSimple

theorem SimpleTree.child {w : World} {r s : RouterRef} (h : w.SimpleTree r)
    (inside : s ∈ (w.router r).children) : w.SimpleTree s :=
  Throughout.child (P := Router.IsSimple) h inside

theorem simpleTree_of_forall {w : World} (h : ∀ r, (w.router r).IsSimple) (r : RouterRef) :
    w.SimpleTree r :=
  throughout_of_forall h r

theorem SimpleTree.of_alike {w w' : World} {r : RouterRef} (h : w.SimpleTree r)
    (same : ∀ r, ∃ s, w'.router r = { w.router r with store := s }) : w'.SimpleTree r :=
  Throughout.of_alike (P := Router.IsSimple) h same fun _ _ simple =>
    ⟨simple.handlers, simple.plugins, simple.run, simple.handle⟩

end World

namespace Dispatch

open Exec World

/-- Every router that is simple with all inside it stays so. -/
def KeepsTrees (w w' : World) : Prop := ∀ s, w.SimpleTree s → w'.SimpleTree s

theorem KeepsTrees.refl (w : World) : KeepsTrees w w := fun _ h => h

theorem KeepsTrees.trans {w w' w'' : World} (h : KeepsTrees w w') (h' : KeepsTrees w' w'') :
    KeepsTrees w w'' :=
  fun s hs => h' s (h s hs)

theorem KeepsTrees.of_alike {w w' : World} (h : Alike w w') : KeepsTrees w w' :=
  fun _ hs => hs.of_alike h.router

/-- A call in which no action completes, and which leaves simple routers simple. -/
def KeepsToItself (p : Passage) (inside : Course) : Prop :=
  inside.completed = 0 ∧ KeepsTrees p.before p.after

/-- How many actions completed when an execution ended, `before` of them before it began: as many as
`n` says of the value that it ended with, and none if it ended early. -/
structure Tally {α : Type} (before : Nat) (n : α → Nat) (w : World) (e : Ended α) : Prop where
  count : before + e.course.completed = e.result.toOption.elim 0 n
  trees : KeepsTrees w e.world

/-- An execution tallies wherever some routers are simple, if its calls keep to themselves. -/
def Tallies {α : Type} (routers : List RouterRef) (before : Nat) (n : α → Nat) (x : Exec α) :
    Prop :=
  ∀ w, (∀ r ∈ routers, w.SimpleTree r) → (∀ p ∈ (x w).course.calls, KeepsToItself p.1 p.2) →
    Tally before n w (x w)

def one (v : Value) : Nat := if v.isTruthy then 1 else 0

namespace Tallies

variable {α β : Type} {routers : List RouterRef} {k : Nat} {m : α → Nat} {n : β → Nat}

theorem pure {a : α} (h : k = m a) : Tallies routers k m (Pure.pure a : Exec α) :=
  fun w _ _ => ⟨by simpa [Course.completed, Except.toOption] using h, .refl w⟩

theorem stop (s : Stop) : Tallies routers 0 m (Exec.stop s : Exec α) :=
  fun w _ _ => ⟨rfl, .refl w⟩

theorem fail (f : Failure) : Tallies routers 0 m (Exec.fail f : Exec α) := stop _

theorem bind {x : Exec α} {f : α → Exec β} (hx : Tallies routers k m x)
    (hf : ∀ a, Tallies routers (m a) n (f a)) : Tallies routers k n (x >>= f) := by
  intro w simple good
  have tally := hx w simple
  rw [bind_apply] at good ⊢
  rcases hw : x w with ⟨course, stop | a, w'⟩
  · rw [hw] at good tally
    exact ⟨(tally good).count, (tally good).trees⟩
  · rw [hw] at good tally
    simp only [Ended.andThen_ok, Course.calls_append, List.forall_mem_append] at good
    obtain ⟨count, trees⟩ := tally good.1
    obtain ⟨count', trees'⟩ := hf a w' (fun r hr => trees r (simple r hr)) good.2
    have count : k + course.completed = m a := count
    refine ⟨?_, trees.trans trees'⟩
    rw [Ended.andThen_ok, Course.completed_append, ← Nat.add_assoc, count]
    exact count'

theorem map {x : Exec α} {f : α → β} (hx : Tallies routers k (fun a => n (f a)) x) :
    Tallies routers k n (f <$> x) :=
  bind hx fun _ => pure rfl

theorem ite {p : Prop} [Decidable p] {x y : Exec α} (hx : Tallies routers k m x)
    (hy : Tallies routers k m y) : Tallies routers k m (if p then x else y) := by
  split
  · exact hx
  · exact hy

theorem attempt {x : Exec α} (hx : Tallies routers k m x) :
    Tallies routers k (fun result => result.toOption.elim 0 m) (attempt x) := by
  intro w simple good
  rw [attempt_course] at good
  obtain ⟨count, trees⟩ := hx w simple good
  refine ⟨?_, by rwa [attempt_world]⟩
  rw [attempt_course, count]
  unfold Exec.attempt
  rcases x w with ⟨course, (f | name | _) | a, w'⟩ <;> try rfl
  by_cases h : f.isOrdinary = true <;> simp [h, Except.toOption]

theorem finishing {x : Exec α} {restore : Option α → World → World} (hx : Tallies routers k m x)
    (trees : ∀ o w, KeepsTrees w (restore o w)) : Tallies routers k m (finishing x restore) := by
  intro w simple good
  rw [finishing_apply] at good ⊢
  have tally := hx w simple good
  exact ⟨tally.count, tally.trees.trans (trees _ _)⟩

theorem answered {v : Value} {x : Exec Bool} (hx : Tallies routers 0 (fun b => one (.bool b)) x) :
    Tallies routers (one v) (fun b => one (.bool b))
      (if v.isTruthy then Pure.pure true else x) := by
  cases yes : v.isTruthy with
  | true => exact pure (by rw [one, yes]; rfl)
  | false =>
    rw [show one v = 0 by rw [one, yes]; rfl]
    exact hx

theorem within {x : Exec Value} {n : Value → Nat} {s : Stage} (hx : Tallies routers k n x)
    (hs : s.isCall = false) : Tallies routers k n (within s x) := by
  intro w simple good
  simp only [within_apply, Course.calls, hs, Bool.false_eq_true, if_false, List.append_nil] at good
  obtain ⟨count, trees⟩ := hx w simple good
  refine ⟨?_, trees⟩
  have no : Passage.completes ⟨s, w, (x w).result, (x w).world⟩ = false := by
    cases s <;> first | rfl | cases hs
  simpa [Course.completed, no] using count

end Tallies

/-- What a step of a run leaves: nothing was gone through, and simple routers are simple. -/
def Silent (w : World) (t : Course) (w' : World) : Prop := t = .done ∧ KeepsTrees w w'

theorem silent_steps (c : ContextRef) : StepInvariant c Silent where
  done w := ⟨rfl, .refl w⟩
  append := by
    rintro w₁ w₂ w₃ s t ⟨rfl, hs⟩ ⟨rfl, ht⟩
    exact ⟨rfl, hs.trans ht⟩
  event w e := ⟨rfl, .of_alike (.record w e)⟩
  line w l := ⟨rfl, .of_alike (.logLine w l)⟩
  modules w m := ⟨rfl, fun _ h => h⟩
  store w r s := ⟨rfl, .of_alike (.setStore w r s)⟩
  context w ctx _ := ⟨rfl, fun _ h => h⟩

theorem Tallies.silent {α : Type} {routers : List RouterRef} {x : Exec α} (hx : Respects Silent x) :
    Tallies routers 0 (fun _ => 0) x := by
  intro w _ _
  obtain ⟨done, trees⟩ := hx w
  refine ⟨?_, trees⟩
  rw [done]
  cases (x w).result <;> rfl

section

variable {calls : Calls} {inner : RouterRef → ContextRef → Exec Value} {c : ContextRef}
variable {routers : List RouterRef}

theorem trigger_tallies (a : Action) : Tallies routers 0 (fun _ => 1) (trigger calls a c) := by
  refine .bind (.silent ((silent_steps c).resolve a)) fun found w _ good => ?_
  simp only [within_apply, Course.calls, Stage.isCall, if_true, List.append_nil,
    List.forall_mem_singleton] at good
  obtain ⟨none, trees⟩ := good
  refine ⟨?_, trees⟩
  simp only [within_apply, Course.completed, none]
  cases (take calls c found.uptake w).result <;> rfl

theorem serve_tallies (a : Action) : Tallies routers 0 one (serve calls a c) :=
  .bind (trigger_tallies a) fun _ => .pure rfl

theorem ask_tallies (p : Predicate) : Tallies routers 0 (fun _ => 0) (ask calls p c) := by
  intro w _ good
  simp only [ask, within_apply, Course.calls, Stage.isCall, if_true, List.append_nil,
    List.forall_mem_singleton] at good ⊢
  obtain ⟨none, trees⟩ := good
  refine ⟨?_, trees⟩
  simp only [Course.completed, Passage.completes, none]
  cases (calls.ask p c w).result <;> rfl

theorem through_tallies {r : RouterRef} {name : String} {x : Exec Value}
    (hx : Tallies routers 0 one x) (mem : r ∈ routers)
    (own : ∀ t : Router, t.IsSimple → Assoc.get? t.overrides name = none) :
    Tallies routers 0 one (through calls r name c x) := by
  intro w simple good
  have own := own _ (simple r mem r (.refl r))
  rw [through_own calls own] at good ⊢
  exact hx w simple good

theorem handleMount_tallies (p : Pattern) (child : RouterRef)
    (hinner : ∀ r, Tallies [r] 0 one (inner r c)) :
    Tallies [child] 0 one (handleMount inner p child c) := by
  have steps := silent_steps c
  refine .bind (.silent (.context steps.toComposes c)) fun before => ?_
  refine .bind (.silent (.lift steps.toComposes _)) fun route => ?_
  split
  · exact .pure rfl
  · refine .bind (.silent (steps.changeContext fun _ => rfl)) fun _ => ?_
    exact .finishing (hinner child) fun _ _ _ h => h

theorem handleRoute_tallies (p : Pattern) (a : Action) :
    Tallies routers 0 one (handleRoute calls p a c) := by
  have steps := silent_steps c
  refine .bind (.silent (steps.capture p)) fun captured => ?_
  cases captured with
  | none => exact .pure rfl
  | some captured =>
    exact .bind (.silent (steps.changeContext fun _ => rfl)) fun _ => serve_tallies a

theorem handleEndpoint_tallies (method : String) (p : Pattern) (a : Action) :
    Tallies routers 0 one (handleEndpoint calls method p a c) := by
  have steps := silent_steps c
  refine .bind (.silent (steps.capture p)) fun captured => ?_
  cases captured with
  | none => exact .pure rfl
  | some captured =>
    refine .bind (.silent (.context steps.toComposes c)) fun _ => ?_
    refine .bind (.silent (.lift steps.toComposes _)) fun _ => .ite ?_ ?_
    · exact .bind (.silent (steps.changeContext fun _ => rfl)) fun _ => serve_tallies a
    · exact .bind (.silent (steps.offerMethod _)) fun _ => .pure rfl

theorem handleConfigure_tallies (base : Option String) :
    Tallies routers 0 one (handleConfigure base c) := by
  have steps := silent_steps c
  refine .bind (.silent (steps.changeContext fun _ => rfl)) fun _ => ?_
  refine .bind (.silent (steps.basePath base)) fun base => ?_
  refine .bind (.silent (.context steps.toComposes c)) fun _ => ?_
  refine .bind (.silent (.lift steps.toComposes _)) fun path => ?_
  split
  · exact .fail _
  · exact .bind (.silent (steps.changeContext fun _ => rfl)) fun _ => .pure rfl

/-- A simple handler answers with a yes exactly if an action completes in it. -/
theorem handle_tallies {h : Handler} (simple : h.isSimple = true)
    (hinner : ∀ r, Tallies [r] 0 one (inner r c)) :
    Tallies h.child?.toList 0 one (handle calls inner h c) := by
  have steps := silent_steps c
  refine .within ?_ rfl
  cases h with
  | callback a => cases simple
  | always a => exact serve_tallies a
  | badMethod a =>
    refine .bind (.silent (.context steps.toComposes c)) fun _ => .ite (serve_tallies a) ?_
    exact .pure rfl
  | conditional p a => exact .bind (ask_tallies p) fun _ => .ite (serve_tallies a) (.pure rfl)
  | route p a => exact handleRoute_tallies p a
  | endpoint method p a => exact handleEndpoint_tallies method p a
  | setNamespace nameSpace =>
    exact .bind (.silent (steps.changeContext fun _ => rfl)) fun _ => .pure rfl
  | mount p child => exact handleMount_tallies p child hinner
  | configure base => exact handleConfigure_tallies base
  | router r =>
    exact through_tallies (hinner r) List.mem_cons_self fun _ simple => simple.handle
  | custom kind result => cases simple

theorem throughLayers_tallies {x : Exec Value} (r : RouterRef) {e : Entry}
    (watch : ∀ p ∈ e.layers, p.watches = true) (hx : Tallies routers 0 one x) :
    Tallies routers 0 one (throughLayers r e x) := by
  intro w simple good
  obtain ⟨w', alike, lets⟩ | ⟨s, blocks⟩ := throughLayers_lets r e watch w
  · obtain ⟨after, alike', eq⟩ := lets x
    rw [eq] at good ⊢
    have trees := KeepsTrees.of_alike alike
    have tally := hx w' (fun r hr => trees r (simple r hr)) good
    exact ⟨tally.count, (trees.trans tally.trees).trans (.of_alike alike')⟩
  · obtain ⟨after, alike, eq⟩ := blocks x
    rw [eq]
    exact ⟨rfl, .of_alike alike⟩

theorem callEntry_tallies (r : RouterRef) (error : Bool) (i : Nat)
    (hinner : ∀ r, Tallies [r] 0 one (inner r c)) :
    Tallies [r] 0 one (callEntry calls inner r error c i) := by
  refine .within (fun w simple good => ?_) rfl
  have tree := simple r List.mem_cons_self
  simp only [bind_apply, router_apply, Ended.andThen_ok, Course.done_append] at good ⊢
  cases he : ((w.router r).chain error)[i]? with
  | none => exact ⟨rfl, .refl w⟩
  | some e =>
    rw [he] at good
    have mem : e ∈ (w.router r).entries := Router.chain_subset (List.mem_of_getElem? he)
    have simple := tree r (.refl r)
    refine throughLayers_tallies r (simple.plugins e mem)
      (handle_tallies (simple.handlers e mem) hinner) w (fun s hs => ?_) good
    exact tree.child (Router.child_mem mem (by simpa using hs))

end

section

variable {routers : List RouterRef} {call : Nat → Exec Value}

theorem firstMatch_tallies (hcall : ∀ i, Tallies routers 0 one (call i)) (places : List Nat) :
    Tallies routers 0 (fun b => one (.bool b)) (firstMatch call places) := by
  induction places with
  | nil => exact .pure rfl
  | cons i places ih =>
    exact .bind (hcall i) fun _ => .answered ih

theorem firstMatchOr_tallies {recover : Nat → Failure → Exec Bool}
    (hcall : ∀ i, Tallies routers 0 one (call i))
    (hrecover : ∀ i f, Tallies routers 0 (fun b => one (.bool b)) (recover i f))
    (places : List Nat) :
    Tallies routers 0 (fun b => one (.bool b)) (firstMatchOr recover call places) := by
  induction places with
  | nil => exact .pure rfl
  | cons i places ih =>
    refine .bind (hcall i).attempt fun result => ?_
    cases result with
    | error f => exact hrecover i f
    | ok v => exact .answered ih

end

section

variable {calls : Calls} {inner : RouterRef → ContextRef → Exec Value} {c : ContextRef}

theorem facing_tallies {r : RouterRef} {x : Exec Value} (f : Failure) (hx : Tallies [r] 0 one x) :
    Tallies [r] 0 one (facing f c x) := by
  intro w simple good
  rw [facing_apply] at good ⊢
  have tally := hx (w.putFailure c (some f)) simple good
  exact ⟨tally.count, tally.trees⟩

theorem recover_tallies (r : RouterRef) (i : Nat) (f : Failure)
    (hinner : ∀ r, Tallies [r] 0 one (inner r c)) :
    Tallies [r] 0 (fun b => one (.bool b)) (recover calls inner r c i f) := by
  have steps := silent_steps c
  have tries : Tallies [r] 0 one (tryErrorHandlers calls inner r c f) := by
    refine .bind (.silent (.router steps.toComposes r)) fun _ => .within (.map ?_) rfl
    exact firstMatch_tallies (fun i => callEntry_tallies r true i hinner) _
  refine .bind (.silent (.router steps.toComposes r)) fun _ => ?_
  refine .bind (.silent (.lift steps.toComposes _)) fun _ => ?_
  refine .bind (.silent (.router steps.toComposes r)) fun _ => ?_
  refine .bind (.silent (steps.debug r _)) fun _ => .bind (facing_tallies f tries) fun _ => ?_
  exact .answered (.bind (.silent (steps.debug r _)) fun _ => .fail f)

theorem run_tallies (depth : Nat) (r : RouterRef) : Tallies [r] 0 one (run calls depth r c) := by
  induction depth generalizing r with
  | zero => exact .stop _
  | succ depth ih =>
    have level : Tallies [r] 0 (fun b => one (.bool b)) (runLevel calls (run calls depth) r c) := by
      refine .bind (.silent (.router (silent_steps c).toComposes r)) fun _ => ?_
      exact firstMatchOr_tallies (fun i => callEntry_tallies r false i ih)
        (fun i f => recover_tallies r i f ih) _
    refine .within (through_tallies (.map level) List.mem_cons_self fun _ simple => ?_) rfl
    exact simple.run

end

/-- A run of a router that is simple with all inside it, whose actions and predicates complete no
other actions and leave routers simple, matches exactly if one action completes; otherwise,
whether it declines or ends early, none does. -/
theorem run_matches_iff_one_completes (calls : Calls) (depth : Nat) (r : RouterRef) (c : ContextRef)
    (w : World) (simple : w.SimpleTree r)
    (apart : ∀ p ∈ (run calls depth r c w).course.calls, KeepsToItself p.1 p.2) :
    ((run calls depth r c w).result = .ok (.bool true) ↔
      (run calls depth r c w).course.completed = 1) ∧
    ((run calls depth r c w).result ≠ .ok (.bool true) →
      (run calls depth r c w).course.completed = 0) := by
  have tally := (run_tallies depth r w (by simpa using simple) apart).count
  rw [Nat.zero_add] at tally
  rw [tally]
  cases h : (run calls depth r c w).result with
  | error s => simp [Except.toOption]
  | ok v =>
    obtain ⟨b, rfl⟩ := run_answers_bool (simple r (.refl r)).run h
    cases b <;> simp [Except.toOption, one, Value.isTruthy]

/-- The router inside fails, and an error handler outside serves the request. -/
def servedOnce : World :=
  Small.world
    [Small.router [.mount .empty 1] [.always (Small.action [])],
      Small.router
        [.conditional (.constant (.bool true)) (Small.action [.fail (.raised .boom "")])]]
    { route := .text "" }

theorem simpleTree_servedOnce : servedOnce.SimpleTree 0 := by
  refine World.simpleTree_of_forall (fun r => ?_) 0
  match r with
  | 0 => exact ⟨by decide, by decide, rfl, rfl⟩
  | 1 => exact ⟨by decide, by decide, rfl, rfl⟩
  | _ + 2 => exact Router.isSimple_default

theorem run_servedOnce_matches :
    servedOnce.SimpleTree 0 ∧
      (∀ p ∈ (run Small.calls 2 0 0 servedOnce).course.calls, KeepsToItself p.1 p.2) ∧
      (run Small.calls 2 0 0 servedOnce).course.completed = 1 := by
  have apart : ∀ p ∈ (run Small.calls 2 0 0 servedOnce).course.calls, KeepsToItself p.1 p.2 :=
    List.forall_iff_forall_mem.1
      ⟨⟨rfl, fun _ h => h⟩, ⟨rfl, fun _ h => h⟩, ⟨rfl, fun _ h => h⟩⟩
  have served := run_matches_iff_one_completes Small.calls 2 0 0 servedOnce simpleTree_servedOnce
    apart
  exact ⟨simpleTree_servedOnce, apart, served.1.1 rfl⟩

end Dispatch
end HandlerChains
