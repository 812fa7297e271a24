import HandlerChains.Example.Routers
import HandlerChains.Proofs.Dispatch.Invariant

/-!
# The failure of a context

While error handlers are tried, the failure that they are tried on is in the context, and the one
from before comes back afterwards. So whatever is called finds the failure of the innermost walk
along error handlers that is in progress.
-/

namespace HandlerChains

/-- The failure that is handled inside a stage, where `handled` is the one around it. -/
def Stage.handled (handled : Option Failure) : Stage → Option Failure
  | recovery _ f => some f
  | _ => handled

/-- All calls in a course, in order, each with the failure that was handled at that time. What a
call does itself does not belong to the course around it. -/
def Course.handledCalls (handled : Option Failure) : Course → List (Option Failure × Passage)
  | done => []
  | step p inside rest =>
    (if p.stage.isCall then [(handled, p)] else inside.handledCalls (p.stage.handled handled)) ++
      rest.handledCalls handled

@[simp] theorem Course.handledCalls_append (handled : Option Failure) (s t : Course) :
    (s ++ t).handledCalls handled = s.handledCalls handled ++ t.handledCalls handled := by
  induction s with
  | done => rfl
  | step p inside rest _ ih => simp [handledCalls, ih]

def Passage.KeepsFailure (c : ContextRef) (p : Passage) : Prop :=
  (p.after.context c).failure = (p.before.context c).failure

namespace Dispatch

open Exec

/-- If no call assigns the failure of a context, then each call finds the one that is handled, and
the failure in the end is the one from the start. -/
def FailureFollows (c : ContextRef) (w : World) (t : Course) (w' : World) : Prop :=
  (∀ x ∈ t.handledCalls (w.context c).failure, x.2.KeepsFailure c) →
    (∀ x ∈ t.handledCalls (w.context c).failure, (x.2.before.context c).failure = x.1) ∧
      (w'.context c).failure = (w.context c).failure

theorem FailureFollows.unchanged {c : ContextRef} {w w' : World}
    (h : (w'.context c).failure = (w.context c).failure) : FailureFollows c w .done w' := by
  intro _
  exact ⟨fun x hx => by simp [Course.handledCalls] at hx, h⟩

theorem FailureFollows.append {c : ContextRef} {w₁ w₂ w₃ : World} {s t : Course}
    (hs : FailureFollows c w₁ s w₂) (ht : FailureFollows c w₂ t w₃) :
    FailureFollows c w₁ (s ++ t) w₃ := by
  intro kept
  simp only [Course.handledCalls_append, List.mem_append] at kept ⊢
  obtain ⟨found, same⟩ := hs fun x hx => kept x (.inl hx)
  obtain ⟨found', same'⟩ := ht fun x hx => kept x (.inr (same ▸ hx))
  rw [same] at found'
  refine ⟨?_, same'.trans same⟩
  rintro x (hx | hx)
  · exact found x hx
  · exact found' x hx

theorem FailureFollows.stage {c : ContextRef} {p : Passage} {t : Course}
    (hp : p.stage.isCall = false) (hf : ∀ f, p.stage.handled f = f)
    (h : FailureFollows c p.before t p.after) :
    FailureFollows c p.before (.step p t .done) p.after := by
  intro kept
  simp only [Course.handledCalls, hp, hf, List.append_nil, Bool.false_eq_true, if_false] at kept ⊢
  exact h kept

theorem FailureFollows.call (c : ContextRef) (s : Stage) (hs : s.isCall = true) (x : Exec Value) :
    Respects (FailureFollows c) (within s x) := by
  intro w kept
  simp only [within_apply, Course.handledCalls, hs, if_true, List.append_nil, List.mem_singleton,
    forall_eq] at kept ⊢
  exact ⟨trivial, kept⟩

theorem FailureFollows.recovery {c : ContextRef} {w w' : World} {r : RouterRef} {f : Failure}
    {e : Except Stop Value} {t : Course} (h : FailureFollows c (w.putFailure c (some f)) t w') :
    FailureFollows c w (.step ⟨.recovery r f, w.putFailure c (some f), e, w'⟩ t .done)
      (w'.putFailure c (w.context c).failure) := by
  intro kept
  simp only [Course.handledCalls, Stage.isCall, Stage.handled, List.append_nil, Bool.false_eq_true,
    if_false] at kept ⊢
  obtain ⟨found, -⟩ := h (by simpa using kept)
  exact ⟨by simpa using found, by simp⟩

theorem failureFollows_invariant (calls : Calls) (c : ContextRef) :
    Invariant calls c (FailureFollows c) where
  done w := .unchanged rfl
  append := .append
  event w e := .unchanged rfl
  line w l := .unchanged rfl
  modules w m := .unchanged rfl
  store w r s := .unchanged rfl
  context w ctx h := .unchanged (by simpa using h)
  run w r e t w' h := .stage rfl (fun _ => rfl) h
  entry depth r error i w t stage h := stage ▸ .stage rfl (fun _ => rfl) h
  handler w h e t w' ht := .stage rfl (fun _ => rfl) ht
  action a u := .call c _ rfl _
  predicate p := .call c _ rfl _
  override r name f := .call c _ rfl _
  recovery w r f e t w' h := .recovery h

/-- Whatever is called during a run finds the failure of the innermost walk along error handlers in
progress, or else the one from the start of the run; and however the run ends, the context has the
failure from the start. -/
theorem run_calls_find_handled_failure (calls : Calls) (depth : Nat) (r : RouterRef)
    (c : ContextRef) (w : World)
    (kept : ∀ x ∈ (run calls depth r c w).course.handledCalls (w.context c).failure,
      x.2.KeepsFailure c) :
    (∀ x ∈ (run calls depth r c w).course.handledCalls (w.context c).failure,
      (x.2.before.context c).failure = x.1) ∧
      ((run calls depth r c w).world.context c).failure = (w.context c).failure :=
  (failureFollows_invariant calls c).respects_run depth r w kept

/-- A router inside another one. Its error handler fails in turn, and that is handled outside. -/
def failingTwice : World :=
  Small.world
    [Small.router [.router 1] [.conditional (.failureIs .subBoom) (Small.action [])],
      Small.router [.always (Small.action [.fail (.raised .boom "")])]
        [.always (Small.action [.fail (.raised .subBoom "")])]]

theorem run_failingTwice_calls_find_failure :
    (∀ x ∈ (run Small.calls 2 0 0 failingTwice).course.handledCalls none, x.2.KeepsFailure 0) ∧
      ∀ x ∈ (run Small.calls 2 0 0 failingTwice).course.handledCalls none,
        (x.2.before.context 0).failure = x.1 := by
  have found : ((run Small.calls 2 0 0 failingTwice).course.handledCalls none).map (fun x =>
      ((x.2.after.context 0).failure, (x.2.before.context 0).failure)) =
      [none, some (.raised .boom ""), some (.raised .subBoom ""),
        some (.raised .subBoom "")].map fun f => (f, f) := rfl
  have kept : ∀ x ∈ (run Small.calls 2 0 0 failingTwice).course.handledCalls none,
      x.2.KeepsFailure 0 :=
    Small.agree_of_pairs found
  exact ⟨kept, (run_calls_find_handled_failure Small.calls 2 0 0 failingTwice kept).1⟩

end Dispatch
end HandlerChains
