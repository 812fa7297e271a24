import HandlerChains.Example.Routers
import HandlerChains.Proofs.Router.Calls
import HandlerChains.Proofs.Router.Levels
import Mathlib

/-!
# Worlds reached by registration calls

Whatever registration calls are made on routers, and however they end, no router comes to contain
itself. So there is an end to the routers inside each other, and runs and descriptions come to it.
-/

namespace HandlerChains

open Failure Containment

namespace World

variable {v w : World}

/-- The worlds that registration calls make of a first one, whether they succeed or fail. -/
inductive Reached (w : World) : World → Prop
  | start : Reached w w
  | call {v : World} (before : Reached w v) (r : RouterRef) (reg : Registration) :
      Reached w (Exec.register r reg v).world

theorem children_congr (same : v.routers = w.routers) : v.children = w.children := by
  funext r
  rw [children, children, router_congr same]

theorem acyclic_of_empty (empty : ∀ r, w.children r = []) : Acyclic w.children := by
  intro r s edge
  rw [empty r] at edge
  cases edge

end World

namespace Exec

variable {α : Type} {late : Prop} {r : RouterRef} {w : World} {e : Ended α}

theorem Registered.acyclic (step : Registered late r w e) (acyclic : Acyclic w.children) :
    Acyclic e.world.children := by
  cases step with
  | aside same _ => rwa [World.children_congr same]
  | handed v h error name derived options same changed _ _ =>
    rw [World.children_congr changed]
    rw [← World.children_congr same] at acyclic
    exact v.register_acyclic r h error name derived options acyclic

theorem Registered.routers_of_refused (step : Registered late r w e) (acyclic : Acyclic w.children)
    (refused : e.RefusedForCycle) : e.world.routers = w.routers := by
  cases step with
  | aside same _ => exact same
  | handed v h error name derived options same changed cycles _ =>
    rw [← World.children_congr same] at acyclic
    obtain ⟨f, failed, cycle⟩ := cycles refused
    have closes := v.closesCycle_of_register r h error name derived options acyclic failed cycle
    obtain ⟨g, unchanged, -⟩ :=
      v.register_of_closesCycle r h error name derived options acyclic closes
    rw [changed, unchanged, same]

end Exec

namespace World

variable {v w : World}

theorem Reached.acyclic (reached : w.Reached v) (acyclic : Acyclic w.children) :
    Acyclic v.children := by
  induction reached with
  | start => exact acyclic
  | call before r reg ih => exact (Exec.Registers.register r reg _).acyclic ih

/-- In every world that registration calls reach no router contains itself; a registration is
refused because of a cycle exactly if it would close one, and changes nothing then; and neither a
description nor a run goes deeper than there are routers. -/
theorem reached_stays_acyclic (acyclic : Acyclic w.children) (reached : w.Reached v) :
    Acyclic v.children ∧
    (∀ self h error name derived options, v.AsksChild h →
      let answer := v.register self h error name derived options
      ((∃ f, answer.1 = .error f ∧ f.isCycle = true ∧ f.kind = .badValue) ↔
        v.ClosesCycle self h) ∧ (v.ClosesCycle self h → answer.2 = v)) ∧
    (∀ r reg, (Exec.register r reg v).RefusedForCycle →
      (Exec.register r reg v).world.routers = v.routers) ∧
    WellFounded (fun s r => s ∈ v.children r) ∧
    (∀ r depth, v.routers.length < depth →
      Describe.nodes v.router depth r = Describe.nodes v.router (v.routers.length + 1) r) ∧
    (∀ calls : Calls, calls.KeepInside → ∀ r c depth, v.routers.length < depth →
      Dispatch.run calls depth r c v = Dispatch.run calls (v.routers.length + 1) r c v) := by
  have acyclic := reached.acyclic acyclic
  have fits : ∀ r, Fits v.children (v.routers.length + 1) r :=
    fun r => fits_of_loopless v.children_outside fun s _ => acyclic.loopless s
  refine ⟨acyclic, ?_, ?_, acyclic.wellFounded v.children_outside, ?_, ?_⟩
  · intro self h error name derived options asks
    refine ⟨⟨?_, ?_⟩, ?_⟩
    · rintro ⟨f, failed, cycle, -⟩
      exact v.closesCycle_of_register self h error name derived options acyclic failed cycle
    · intro closes
      obtain ⟨f, refused, cycle⟩ :=
        v.register_of_closesCycle self h error name derived options acyclic closes
      exact ⟨f, by rw [refused], cycle asks, kind_of_isCycle (cycle asks)⟩
    · intro closes
      obtain ⟨f, refused, -⟩ :=
        v.register_of_closesCycle self h error name derived options acyclic closes
      rw [refused]
  · intro r reg refused
    exact (Exec.Registers.register r reg v).routers_of_refused acyclic refused
  · intro r depth deep
    exact Describe.nodes_eq_of_fits (fits r) deep
  · intro calls keep r c depth deep
    have steps := Dispatch.keepsInside_invariant keep c
    exact (Dispatch.run_agrees steps (fits r) deep v rfl).1

def twoRouters : World :=
  { Small.world [Small.router [], Small.router []] with
    routerNames := [("outer", 0), ("inner", 1)] }

def nestedRouters : World :=
  (Exec.register 0 (.mk (.handler false (.router "inner")) [] false) twoRouters).world

theorem twoRouters_children (r : RouterRef) : twoRouters.children r = [] := by
  match r with
  | 0 => rfl
  | 1 => rfl
  | r + 2 => exact twoRouters.children_outside _ (Nat.le_add_left 2 r)

theorem nestedRouters_stay_acyclic :
    nestedRouters.children 0 = [1] ∧ Acyclic nestedRouters.children ∧
      (nestedRouters.register 1 (.router 0) true .null none []).2 = nestedRouters := by
  have inside : nestedRouters.children 0 = [1] := by cbv
  obtain ⟨acyclic, refuses, -⟩ :=
    reached_stays_acyclic (acyclic_of_empty twoRouters_children)
      (.call .start 0 (.mk (.handler false (.router "inner")) [] false))
  refine ⟨inside, acyclic, ?_⟩
  refine (refuses 1 (.router 0) true .null none [] ?_).2 ?_
  · rintro _ ⟨⟩
    cbv
  · refine (closesCycle_iff acyclic).2 ⟨0, rfl, .single ?_⟩
    change 1 ∈ nestedRouters.children 0
    simp [inside]

end World
end HandlerChains
