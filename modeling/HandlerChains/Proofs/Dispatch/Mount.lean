import HandlerChains.Dispatch.Run
import HandlerChains.Example.Routers

/-!
# Leaving a mount

What happens inside a mount can change the route and the parameters of the context in any way, and
it can end in any way. Leaving the mount puts the route back, and the parameters too unless the
router inside matched.
-/

namespace HandlerChains
namespace Dispatch

open Exec

@[simp] theorem route_leaveMount (before : Context) (answer : Option Value) (ctx : Context) :
    (leaveMount before answer ctx).route = before.route := by
  unfold leaveMount
  dsimp only
  split <;> rfl

theorem parameters_leaveMount {answer : Option Value} (h : answer.any Value.isTruthy = false)
    (before ctx : Context) : (leaveMount before answer ctx).parameters = before.parameters := by
  simp [leaveMount, h]

theorem run_answers_bool {calls : Calls} {depth : Nat} {r : RouterRef} {c : ContextRef} {w : World}
    {v : Value} (own : Assoc.get? (w.router r).overrides "run" = none)
    (h : (run calls depth r c w).result = .ok v) : ∃ b, v = .bool b := by
  cases depth with
  | zero => cases h
  | succ depth =>
    rw [run_own calls own] at h
    cases hb : (runLevel calls (run calls depth) r c w).result with
    | error s => simp [hb, Except.map] at h
    | ok b =>
      simp only [hb, Except.map, Except.ok.injEq] at h
      exact ⟨b, h.symm⟩

section

variable (inner : RouterRef → ContextRef → Exec Value) (p : Pattern) (child : RouterRef)
variable (c : ContextRef) (w : World)

theorem route_handleMount :
    ((handleMount inner p child c w).world.context c).route = (w.context c).route := by
  obtain ⟨route, captured, rest, hr, hp⟩ | ⟨f, h⟩ | h := handleMount_cases inner p child c w
  · rw [handleMount_inside inner hr hp]
    simp
  · rw [h]
  · rw [h]

theorem parameters_handleMount
    (h : (handleMount inner p child c w).result.toOption.any Value.isTruthy = false) :
    ((handleMount inner p child c w).world.context c).parameters = (w.context c).parameters := by
  obtain ⟨route, captured, rest, hr, hp⟩ | ⟨f, hm⟩ | hm := handleMount_cases inner p child c w
  · rw [handleMount_inside inner hr hp] at h ⊢
    simpa using parameters_leaveMount h _ _
  · rw [hm]
  · rw [hm]

/-- A yes of a mount is the answer of its router, run on what the pattern leaves of the route. -/
theorem inner_of_handleMount {v : Value} (h : (handleMount inner p child c w).result = .ok v)
    (yes : v.isTruthy = true) :
    ∃ route captured rest, (w.context c).demandRoute = .ok route ∧
      p.matchStart? route = some (captured, rest) ∧
      (inner child c (w.setContext c (enterMount captured rest (w.context c)))).result = .ok v := by
  obtain ⟨route, captured, rest, hr, hp⟩ | ⟨f, hm⟩ | hm := handleMount_cases inner p child c w
  · rw [handleMount_inside inner hr hp] at h
    exact ⟨route, captured, rest, hr, hp, h⟩
  · rw [hm] at h
    cases h
  · rw [hm] at h
    cases h
    cases yes

theorem handleMount_answers_bool
    (hinner : ∀ ctx v, (inner child c (w.setContext c ctx)).result = .ok v → ∃ b, v = .bool b)
    {v : Value} (h : (handleMount inner p child c w).result = .ok v) : ∃ b, v = .bool b := by
  obtain ⟨route, captured, rest, hr, hp⟩ | ⟨f, hm⟩ | hm := handleMount_cases inner p child c w
  · rw [handleMount_inside inner hr hp] at h
    exact hinner _ v h
  · rw [hm] at h
    cases h
  · rw [hm] at h
    cases h
    exact ⟨false, rfl⟩

/-- Whatever happens inside a mount and however it ends, it puts the route back, and the parameters
unless it answers with a yes. It answers with a yes only if its router does. -/
theorem handle_mount_restores (calls : Calls) (depth : Nat) :
    let e := handle calls (run calls depth) (.mount p child) c w
    (e.world.context c).route = (w.context c).route ∧
      ((∀ v, e.result = .ok v → v.isTruthy = false) →
        (e.world.context c).parameters = (w.context c).parameters) ∧
      (∀ v, e.result = .ok v → v.isTruthy = true →
        ∃ route captured rest, (w.context c).demandRoute = .ok route ∧
          p.matchStart? route = some (captured, rest) ∧
          (run calls depth child c
            (w.setContext c (enterMount captured rest (w.context c)))).result = .ok v) ∧
      (Assoc.get? (w.router child).overrides "run" = none →
        ∀ v, e.result = .ok v → ∃ b, v = .bool b) := by
  intro e
  have result : e.result = (handleMount (run calls depth) p child c w).result := rfl
  refine ⟨route_handleMount _ p child c w, fun no => ?_, fun v hv yes => ?_, fun own v hv => ?_⟩
  · refine parameters_handleMount _ p child c w ?_
    rw [← result]
    cases hv : e.result with
    | error s => rfl
    | ok v => simpa [Except.toOption] using no v hv
  · exact inner_of_handleMount _ p child c w hv yes
  · refine handleMount_answers_bool _ p child c w (fun ctx v h => ?_) hv
    exact run_answers_bool (w := w.setContext c ctx) own h

end

/-- The action inside changes the parameters, puts others in their place, assigns another route and
fails with what nothing catches; both are back afterwards. -/
theorem handle_mount_restores_halted :
    let w := Small.world
      [Small.router [.always (Small.action
        [.merge [("x", .int 2), ("y", .int 3)], .setParameters (some [("z", .null)]),
          .assign (.route (.text "elsewhere")), .fail (.raised .halt "")])]]
      { route := .text "ab", parameters := some [("x", .int 1)] }
    let e := handle Small.calls (run Small.calls 1) (.mount (Small.letter 'a') 0) 0 w
    (∀ v, e.result = .ok v → v.isTruthy = false) ∧
      (e.world.context 0).route = .text "ab" ∧
      (e.world.context 0).parameters = some [("x", .int 1)] := by
  intro w e
  have halted : e.result = .error (.failed (.raised .halt "")) := rfl
  have no : ∀ v, e.result = .ok v → v.isTruthy = false := by
    intro v hv
    rw [halted] at hv
    cases hv
  obtain ⟨route, parameters, -⟩ := handle_mount_restores (Small.letter 'a') 0 0 w Small.calls 1
  exact ⟨no, route, parameters no⟩

end Dispatch
end HandlerChains
