import HandlerChains.Example.Routers
import HandlerChains.Proofs.Dispatch.Answers
import HandlerChains.Proofs.Dispatch.Mount
import HandlerChains.Proofs.Dispatch.Trees
import Mathlib.Data.List.Basic

/-!
# What a declined run leaves

A run that comes to a no has called no action: a yes goes out through all mounts and chains, and
neither a failure nor a recovery turns into a no. What such a run leaves in the context are the name
spaces that were set on the way and the methods that were offered; everything else was put back by
the mounts.
-/

namespace HandlerChains

/-- Whether methods come first in others: they are the same, or more were appended to a list. -/
def Value.Begins (v v' : Value) : Prop :=
  v' = v ∨ ∃ items more, v = .list items ∧ v' = .list (items ++ more)

namespace Value.Begins

theorem refl (v : Value) : v.Begins v := .inl rfl

theorem trans {u v w : Value} (h : u.Begins v) (h' : v.Begins w) : u.Begins w := by
  obtain rfl | ⟨items, more, rfl, rfl⟩ := h
  · exact h'
  · obtain rfl | ⟨_, more', eq, rfl⟩ := h'
    · exact .inr ⟨items, more, rfl, rfl⟩
    · cases eq
      exact .inr ⟨items, more ++ more', rfl, by rw [List.append_assoc]⟩

end Value.Begins

theorem Context.begins_of_offerMethod {c ctx : Context} {method : Value}
    (h : c.offerMethod method = .ok ctx) :
    ∃ methods, c.methods.Begins methods ∧ ctx = { c with methods } := by
  unfold offerMethod at h
  rcases hm : hasMember c.methods method with f | found
  · simp [hm, bind, Except.bind] at h
  · rw [hm] at h
    simp only [bind, Except.bind, pure, Except.pure] at h
    split at h
    · cases h
      exact ⟨c.methods, .refl _, rfl⟩
    · split at h
      · rename_i items hv
        cases h
        exact ⟨_, .inr ⟨items, [method], hv, rfl⟩, rfl⟩
      · cases h

def Passage.nameSpace? (p : Passage) : Option String :=
  match p.stage with
  | .handler (.setNamespace nameSpace) => some nameSpace
  | _ => none

namespace Course

/-- The name spaces that were set in a course, in order. What a call does itself does not belong to
the course around it. -/
def nameSpaces : Course → List String
  | done => []
  | step p inside rest =>
    p.nameSpace?.toList ++ (if p.stage.isCall then [] else inside.nameSpaces) ++ rest.nameSpaces

@[simp] theorem nameSpaces_append (s t : Course) :
    (s ++ t).nameSpaces = s.nameSpaces ++ t.nameSpaces := by
  induction s with
  | done => rfl
  | step p inside rest _ ih => simp [nameSpaces, ih]

/-- The name space after a course: the one set last, or else the one from before. -/
def nameSpaceAfter (t : Course) (before : Value) : Value :=
  (t.nameSpaces.getLast?.map .text).getD before

@[simp] theorem nameSpaceAfter_done (before : Value) : done.nameSpaceAfter before = before := rfl

@[simp] theorem nameSpaceAfter_append (s t : Course) (before : Value) :
    (s ++ t).nameSpaceAfter before = t.nameSpaceAfter (s.nameSpaceAfter before) := by
  unfold nameSpaceAfter
  rw [nameSpaces_append, List.getLast?_append]
  cases t.nameSpaces.getLast? <;> rfl

end Course

namespace Handler

/-- Whether a handler declines only if it called no action, and then leaves the route and the
methods from before. -/
def isRegular : Handler → Bool
  | callback _ | custom .. | configure _ => false
  | _ => true

end Handler

/-- A router of regular handlers that runs as routers do by themselves. -/
structure Router.IsRegular (r : Router) : Prop where
  handlers : ∀ e ∈ r.entries, e.handler.isRegular = true
  run : Assoc.get? r.overrides "run" = none
  handle : Assoc.get? r.overrides "handle" = none

theorem Router.isRegular_default : (default : Router).IsRegular := ⟨by decide, rfl, rfl⟩

namespace Dispatch

open Exec World

abbrev KeepsRegular (w w' : World) : Prop := KeepsThroughout Router.IsRegular w w'

theorem KeepsRegular.of_alike {w w' : World} (h : Alike w w') : KeepsRegular w w' :=
  KeepsThroughout.of_alike h fun _ _ regular => ⟨regular.handlers, regular.run, regular.handle⟩

/-- What is left of an execution that came to nothing: no action was called, and of the context the
name space is the one set last and the methods from before come first. -/
structure PassesOver (c : ContextRef) (w : World) (t : Course) (w' : World) : Prop where
  trees : KeepsRegular w w'
  calls : ∀ p ∈ t.calls, ∃ q, p.1.stage = .predicate q
  context : ∃ methods, (w.context c).methods.Begins methods ∧
    w'.context c = { w.context c with
      methods, nameSpace := t.nameSpaceAfter (w.context c).nameSpace }

namespace PassesOver

variable {c : ContextRef} {w w' w₁ w₂ w₃ : World} {s t : Course}

theorem unchanged (trees : KeepsRegular w w') (same : w'.context c = w.context c) :
    PassesOver c w .done w' where
  trees := trees
  calls := by simp [Course.calls]
  context := ⟨_, .refl _, same⟩

theorem of_alike (h : Alike w w') : PassesOver c w .done w' :=
  unchanged (.of_alike h) (h.context c)

theorem refl (w : World) : PassesOver c w .done w := unchanged (.refl w) rfl

theorem append (hs : PassesOver c w₁ s w₂) (ht : PassesOver c w₂ t w₃) :
    PassesOver c w₁ (s ++ t) w₃ where
  trees := hs.trees.trans ht.trees
  calls := by
    rw [Course.calls_append, List.forall_mem_append]
    exact ⟨hs.calls, ht.calls⟩
  context := by
    obtain ⟨methods, begins, eq⟩ := hs.context
    obtain ⟨methods', begins', eq'⟩ := ht.context
    rw [eq] at begins' eq'
    refine ⟨methods', begins.trans begins', ?_⟩
    rw [eq', Course.nameSpaceAfter_append]

theorem stage {p : Passage} (own : p.stage.isCall = false) (none : p.nameSpace? = none)
    (inside : PassesOver c w t w') : PassesOver c w (.step p t .done) w' where
  trees := inside.trees
  calls := by simpa [Course.calls, own] using inside.calls
  context := by
    obtain ⟨methods, begins, eq⟩ := inside.context
    refine ⟨methods, begins, ?_⟩
    simpa [Course.nameSpaceAfter, Course.nameSpaces, own, none] using eq

end PassesOver

theorem passesOver_sides (c : ContextRef) : SideInvariant (PassesOver c) where
  done w := .refl w
  append := .append
  event w e := .of_alike (.record w e)
  line w l := .of_alike (.logLine w l)
  modules _ _ := .unchanged (fun _ h => h) rfl
  store w r s := .of_alike (.setStore w r s)

theorem offerMethod_passesOver (c : ContextRef) (v : Value) :
    Respects (PassesOver c) (offerMethod c v) := by
  intro w
  cases hv : (w.context c).offerMethod v with
  | error f => simpa [Exec.offerMethod, bind_apply, Exec.lift, hv] using PassesOver.refl w
  | ok ctx =>
    obtain ⟨methods, begins, rfl⟩ := Context.begins_of_offerMethod hv
    have ended : offerMethod c v w =
        ⟨.done, .ok (), w.setContext c { w.context c with methods }⟩ := by
      simp [Exec.offerMethod, bind_apply, Exec.lift, hv]
    rw [ended]
    refine ⟨fun _ h => h, by simp [Course.calls], methods, begins, ?_⟩
    rw [context_setContext_self]
    rfl

/-- A predicate that only looks: the context is afterwards as it was, and regular routers are
regular. -/
def OnlyLooks (c : ContextRef) (p : Passage) : Prop :=
  ∀ q, p.stage = .predicate q →
    p.after.context c = p.before.context c ∧ KeepsRegular p.before p.after

/-- Wherever some routers are regular, an execution whose predicates only look passes over the
context if it ends with a value of a certain kind. -/
def Spares {α : Type} (c : ContextRef) (routers : List RouterRef) (no : α → Prop) (x : Exec α) :
    Prop :=
  ∀ w, (∀ r ∈ routers, w.Throughout Router.IsRegular r) →
    (∀ p ∈ (x w).course.calls, OnlyLooks c p.1) →
      ∀ a, (x w).result = .ok a → no a → PassesOver c w (x w).course (x w).world

namespace Spares

variable {α β : Type} {c : ContextRef} {routers : List RouterRef} {mid : α → Prop} {no : β → Prop}

theorem pure (a : β) : Spares c routers no (Pure.pure a : Exec β) :=
  fun w _ _ _ _ _ => .refl w

theorem of_never {x : Exec β} (h : Never no x) : Spares c routers no x :=
  fun w _ _ a ended no => absurd no (h w a ended)

theorem of_respects {x : Exec β} (h : Respects (PassesOver c) x) : Spares c routers no x :=
  fun w _ _ _ _ _ => h w

/-- An execution after which only some values lead to a no has to be looked at for these. -/
theorem bind {x : Exec α} {f : α → Exec β} (hx : Spares c routers mid x)
    (hf : ∀ a, mid a → Spares c routers no (f a)) (others : ∀ a, ¬ mid a → Never no (f a)) :
    Spares c routers no (x >>= f) := by
  intro w regular looks b ended hb
  rw [bind_apply] at looks ended ⊢
  rcases hw : x w with ⟨course, stop | a, w'⟩
  · rw [hw] at ended
    cases ended
  · rw [hw] at looks ended
    simp only [Ended.andThen_ok, Course.calls_append, List.forall_mem_append] at looks ended ⊢
    by_cases leads : mid a
    · have first : PassesOver c w course w' := by
        have := hx w regular (by rw [hw]; exact looks.1) a (by rw [hw]) leads
        rwa [hw] at this
      have trees : ∀ r ∈ routers, w'.Throughout Router.IsRegular r :=
        fun r hr => first.trees r (regular r hr)
      exact first.append (hf a leads w' trees looks.2 b ended hb)
    · exact absurd hb (others a leads w' b ended)

theorem after {x : Exec α} {f : α → Exec β} (hx : Respects (PassesOver c) x)
    (hf : ∀ a, Spares c routers no (f a)) : Spares c routers no (x >>= f) := by
  have spares : Spares c routers (fun _ => True) x := of_respects hx
  exact bind spares (fun a _ => hf a) fun _ other => absurd trivial other

theorem ite {p : Prop} [Decidable p] {x y : Exec β} (hx : Spares c routers no x)
    (hy : Spares c routers no y) : Spares c routers no (if p then x else y) := by
  split
  · exact hx
  · exact hy

theorem map {x : Exec α} {f : α → β} (hx : Spares c routers (fun a => no (f a)) x) :
    Spares c routers no (f <$> x) :=
  bind hx (fun _ _ => pure _) fun _ => Never.pure

theorem attempt {x : Exec β} (hx : Spares c routers no x) :
    Spares c routers (fun result => ∃ b, result = .ok b ∧ no b) (Exec.attempt x) := by
  rintro w regular looks _ ended ⟨b, rfl, hb⟩
  rw [attempt_course] at looks ⊢
  rw [attempt_world]
  refine hx w regular looks b ?_ hb
  unfold Exec.attempt at ended
  rcases hw : x w with ⟨course, (f | name | _) | a, w'⟩ <;> simp only [hw] at ended
  · split at ended <;> cases ended
  · cases ended
  · cases ended
  · cases ended
    rfl

theorem within {x : Exec Value} {no : Value → Prop} {s : Stage} (hx : Spares c routers no x)
    (own : s.isCall = false) (none : ∀ w e w', Passage.nameSpace? ⟨s, w, e, w'⟩ = none) :
    Spares c routers no (within s x) := by
  intro w regular looks v ended hv
  simp only [within_apply, Course.calls, own, Bool.false_eq_true, if_false,
    List.append_nil] at looks ended ⊢
  exact .stage own (none ..) (hx w regular looks v ended hv)

end Spares

section

variable {calls : Calls} {inner : RouterRef → ContextRef → Exec Value} {c : ContextRef}
variable {routers : List RouterRef}

theorem spares_judges : Judges (PassesOver c) (fun _ => Spares c routers) fun _ => Never where
  toSideInvariant := passesOver_sides c
  respects := .of_respects
  never _ h := h
  bind := .bind
  attempt := .attempt

/-! ## Handlers -/

theorem ask_spares (q : Predicate) : Spares c routers (fun _ => True) (ask calls q c) := by
  intro w _ looks v _ _
  simp only [ask, within_apply, Course.calls, Stage.isCall, if_true, List.append_nil,
    List.forall_mem_singleton] at looks ⊢
  obtain ⟨same, trees⟩ := looks q rfl
  refine ⟨trees, ?_, _, .refl _, same⟩
  simp [Course.calls, Stage.isCall]

theorem handleEndpoint_spares (method : String) (p : Pattern) (a : Action) :
    Spares c routers IsNo (handleEndpoint calls method p a c) := by
  have sides := passesOver_sides c
  have hR := sides.toComposes
  refine .after (sides.capture p) fun captured => ?_
  cases captured with
  | none => exact .pure _
  | some captured =>
    refine .after (.context hR c) fun _ => .after (.lift hR _) fun _ => .ite ?_ ?_
    · exact .of_never (.bind fun _ => serve_never a)
    · exact .after (offerMethod_passesOver c _) fun _ => .pure _

theorem through_spares {r : RouterRef} {name : String} {x : Exec Value}
    (hx : Spares c [r] IsNo x)
    (own : ∀ t : Router, t.IsRegular → Assoc.get? t.overrides name = none) :
    Spares c [r] IsNo (through calls r name c x) := by
  intro w regular looks
  have own := own _ (regular r List.mem_cons_self).self
  rw [through_own calls own] at looks ⊢
  exact hx w regular looks

/-- A mount puts back what it changed, so what is left is what the router inside leaves. -/
theorem handleMount_spares (p : Pattern) (child : RouterRef)
    (hinner : ∀ r, Spares c [r] IsNo (inner r c)) :
    Spares c [child] IsNo (handleMount inner p child c) := by
  intro w regular looks v ended no
  obtain ⟨route, captured, rest, hr, hp⟩ | ⟨f, hm⟩ | hm := handleMount_cases inner p child c w
  · rw [handleMount_inside inner hr hp] at looks ended ⊢
    dsimp only at looks ended ⊢
    have left := hinner child (w.setContext c (enterMount captured rest (w.context c)))
    obtain ⟨trees, quiet, methods, begins, eq⟩ := left regular looks v ended no
    refine ⟨trees, quiet, methods, by simpa [enterMount, Context.mergeParameters] using begins, ?_⟩
    rw [context_setContext_self, eq, ended]
    simp [leaveMount, Except.toOption, show v.isTruthy = false from no, enterMount,
      Context.mergeParameters]
  · rw [hm] at ended
    cases ended
  · rw [hm]
    exact .refl w

theorem setNamespace_spares (nameSpace : String) :
    Spares c routers IsNo (handle calls inner (.setNamespace nameSpace) c) := by
  intro w _ _ _ _ _
  refine ⟨fun _ h => h, by simp [handle, Course.calls, Stage.isCall, bind_apply], ?_⟩
  refine ⟨_, .refl _, ?_⟩
  simp [handle, bind_apply, Course.nameSpaceAfter, Course.nameSpaces, Passage.nameSpace?,
    Stage.isCall]

/-- A regular handler that answers with a no has passed over the context. -/
theorem handle_spares {h : Handler} (regular : h.isRegular = true)
    (hinner : ∀ r, Spares c [r] IsNo (inner r c)) :
    Spares c h.child?.toList IsNo (handle calls inner h c) := by
  have sides := passesOver_sides c
  have hR := sides.toComposes
  cases h with
  | callback a => cases regular
  | always a => exact .within (.of_never (serve_never a)) rfl fun _ _ _ => rfl
  | badMethod a =>
    refine .within (.after (.context hR c) fun _ => .ite ?_ (.pure _)) rfl fun _ _ _ => rfl
    exact .of_never (serve_never a)
  | conditional q a =>
    refine .within (.bind (ask_spares q) (fun _ _ => .ite ?_ (.pure _)) ?_) rfl fun _ _ _ => rfl
    · exact .of_never (serve_never a)
    · exact fun _ other => absurd trivial other
  | route p a =>
    refine .within (.after (sides.capture p) fun captured => ?_) rfl fun _ _ _ => rfl
    cases captured with
    | none => exact .pure _
    | some captured => exact .of_never (.bind fun _ => serve_never a)
  | endpoint method p a => exact .within (handleEndpoint_spares method p a) rfl fun _ _ _ => rfl
  | setNamespace nameSpace => exact setNamespace_spares nameSpace
  | mount p child => exact .within (handleMount_spares p child hinner) rfl fun _ _ _ => rfl
  | configure base => cases regular
  | router r =>
    refine .within (through_spares (hinner r) fun t regular => ?_) rfl fun _ _ _ => rfl
    exact regular.handle
  | custom kind result => cases regular

/-! ## Runs -/

theorem callEntry_spares (r : RouterRef) (error : Bool) (i : Nat)
    (hinner : ∀ r, Spares c [r] IsNo (inner r c)) :
    Spares c [r] IsNo (callEntry calls inner r error c i) := by
  refine .within (fun w regular looks v ended no => ?_) rfl fun _ _ _ => rfl
  have tree := regular r List.mem_cons_self
  simp only [bind_apply, router_apply, Ended.andThen_ok, Course.done_append] at looks ended ⊢
  cases he : ((w.router r).chain error)[i]? with
  | none => exact .refl w
  | some e =>
    rw [he] at looks ended
    have mem : e ∈ (w.router r).entries := Router.chain_subset (List.mem_of_getElem? he)
    have handled : Spares c e.handler.child?.toList IsNo (handle calls inner e.handler c) :=
      handle_spares (tree.self.handlers e mem) hinner
    refine spares_judges.throughLayers r e handled w (fun s hs => ?_) looks v ended no
    exact tree.child (Router.child_mem mem (by simpa using hs))

theorem run_spares (depth : Nat) (r : RouterRef) : Spares c [r] IsNo (run calls depth r c) := by
  induction depth generalizing r with
  | zero =>
    intro w _ _ v ended
    cases ended
  | succ depth ih =>
    have level : Spares c [r] (· = false) (runLevel calls (run calls depth) r c) :=
      .after (.router (passesOver_sides c).toComposes r) fun _ =>
        spares_judges.firstMatchOr (fun i => callEntry_spares r false i ih) (recover_never r) _
    refine .within (through_spares (.map level) fun t regular => ?_) rfl fun _ _ _ => rfl
    exact regular.run

end

/-- A run that declines has called no action, and all it leaves of a context in which it ran are the
name space that was set last and more methods after those from before. -/
theorem run_declined_passes_over (calls : Calls) (depth : Nat) (r : RouterRef) (c : ContextRef)
    (w : World) (regular : w.Throughout Router.IsRegular r)
    (looks : ∀ p ∈ (run calls depth r c w).course.calls, OnlyLooks c p.1)
    (no : (run calls depth r c w).result = .ok (.bool false)) :
    let e := run calls depth r c w
    (∃ methods, (w.context c).methods.Begins methods ∧
      e.world.context c = { w.context c with
        methods
        nameSpace := (e.course.nameSpaces.getLast?.map .text).getD (w.context c).nameSpace }) ∧
    ∀ p ∈ e.course.calls, ∃ q, p.1.stage = .predicate q := by
  have left := run_spares depth r w (by simpa using regular) looks (.bool false) no rfl
  exact ⟨left.context, left.calls⟩

def postedContext : Context :=
  { method := .text "POST", route := .text "ab", methods := .list [.text "PUT"]
    parameters := some [("x", .int 1)] }

/-- An endpoint behind a mount is for another method, a router next to it sets a name space, and so
does the router outside before its condition fails. -/
def declinedTwice : World :=
  Small.world
    [Small.router [.mount (Small.letter 'a') 1, .setNamespace "outer",
        .conditional (.constant (.bool false)) (Small.action [])],
      Small.router [.endpoint "GET" (Small.letter 'b') (Small.action []), .router 2]
        [.always (Small.action [])],
      Small.router [.setNamespace "inner"]]
    postedContext

theorem throughout_declinedTwice : declinedTwice.Throughout Router.IsRegular 0 := by
  refine World.throughout_of_forall (fun r => ?_) 0
  match r with
  | 0 | 1 | 2 => exact ⟨by decide, rfl, rfl⟩
  | _ + 3 => exact Router.isRegular_default

theorem run_declinedTwice_passes_over :
    declinedTwice.Throughout Router.IsRegular 0 ∧
      (∀ p ∈ (run Small.calls 3 0 0 declinedTwice).course.calls, OnlyLooks 0 p.1) ∧
      (run Small.calls 3 0 0 declinedTwice).result = .ok (.bool false) ∧
      ∃ methods, (Value.list [.text "PUT"]).Begins methods ∧
        (run Small.calls 3 0 0 declinedTwice).world.context 0 =
          { postedContext with methods, nameSpace := .text "outer" } := by
  have looks : ∀ p ∈ (run Small.calls 3 0 0 declinedTwice).course.calls, OnlyLooks 0 p.1 :=
    List.forall_iff_forall_mem.1 fun _ _ => ⟨rfl, fun _ h => h⟩
  have no : (run Small.calls 3 0 0 declinedTwice).result = .ok (.bool false) := rfl
  obtain ⟨left, -⟩ :=
    run_declined_passes_over Small.calls 3 0 0 declinedTwice throughout_declinedTwice looks no
  exact ⟨throughout_declinedTwice, looks, no, left⟩

end Dispatch
end HandlerChains
