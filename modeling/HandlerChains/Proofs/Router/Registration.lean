import HandlerChains.Proofs.Router.Containment
import HandlerChains.Proofs.Router.Names
import HandlerChains.Proofs.Router.Refusal

/-!
# Registration closes no cycle

The search that registration makes is about the routers as they are, so a handler is refused because
of a cycle exactly if a cycle would be there with it, and nothing else that registration does puts a
router into another one.
-/

namespace HandlerChains

open Failure Containment

namespace Router

variable (r : Router)

theorem newEntry_ok {r : Router} {codes : List String} {h : Handler} {error : Bool} {name : Value}
    {derived : Except Failure Value} {options : Assoc Value} {e : Entry}
    (made : r.newEntry codes h error name derived options = .ok e) :
    e.handler = h ∧ e.error = error := by
  obtain ⟨-, name', rfl⟩ := newEntry_fresh made
  exact ⟨rfl, rfl⟩

theorem mem_children_append (e : Entry) (s : RouterRef) :
    s ∈ (r.append e).children ↔ s ∈ r.children ∨ e.handler.child? = some s := by
  unfold append children entries
  split <;> simp [List.filterMap_append] <;> grind

/-- Registration puts at most the handler that it is about into a router, and that only if it
succeeds. It does not fail because of a cycle. -/
theorem register_children {codes : List String} {h : Handler} {error : Bool} {name : Value}
    {derived : Except Failure Value} {found : Except Failure Unit} {options : Assoc Value}
    (hd : NoCycle derived) (hf : NoCycle found) :
    let answer := r.register codes h error name derived found options
    NoCycle answer.1 ∧ ∀ s, s ∈ answer.2.children ↔
      s ∈ r.children ∨ answer.1 = .ok () ∧ h.child? = some s := by
  dsimp only
  unfold register
  cases made : r.newEntry codes h error name derived options with
  | error f =>
    exact ⟨.error (r.newEntry_noCycle codes h error name hd options f made), fun s => by simp⟩
  | ok e =>
    obtain ⟨handler, chain⟩ := newEntry_ok made
    dsimp only
    unfold addEntry
    obtain ⟨handler', -, noCycle⟩ := r.fitAll_keeps hf h error ⟨r.store, e⟩ handler chain
    rcases fitted : (r.fitAll found).run ⟨r.store, e⟩ with ⟨f | _, s⟩
    · rw [fitted] at noCycle
      exact ⟨noCycle, fun s => by simp [children, entries]⟩
    · rw [fitted] at handler'
      refine ⟨.ok (), fun t => ?_⟩
      have at_end := mem_children_append { r with store := s.store }
        { s.entry with layers := r.plugins } t
      have same : s.entry.handler = h := handler'
      rw [same] at at_end
      simpa [children, entries] using at_end

end Router

namespace World

variable {w : World} {self : RouterRef} {h : Handler}

def children (w : World) (r : RouterRef) : List RouterRef := (w.router r).children

theorem children_outside (w : World) (r : RouterRef) (outside : w.routers.length ≤ r) :
    w.children r = [] := by
  simp only [children, router, Cells.read, List.getD_eq_getElem?_getD,
    List.getElem?_eq_none outside, Option.getD_none]
  rfl

theorem contains_iff (w : World) (r target : RouterRef) :
    w.contains r target = true ↔ Contains w.children r target :=
  Containment.contains_iff w.children_outside r target

/-- Whether a router would contain itself if a handler was in another one. -/
def ClosesCycle (w : World) (self : RouterRef) (h : Handler) : Prop :=
  ¬ Acyclic (addInside w.children self h.child?)

theorem closesCycle_iff (acyclic : Acyclic w.children) :
    w.ClosesCycle self h ↔ ∃ child, h.child? = some child ∧ Contains w.children child self := by
  unfold ClosesCycle
  rw [acyclic_addInside_iff acyclic]
  push Not
  rfl

/-- What a handler leads to says by itself what it contains. -/
def AsksChild (w : World) (h : Handler) : Prop :=
  ∀ child, h.child? = some child → Assoc.get? (w.router child).overrides "_reaches" = none

theorem reaches_cases (w : World) (child self : RouterRef) :
    w.reaches child self = .ok (w.contains child self) ∨
      Assoc.get? (w.router child).overrides "_reaches" ≠ none ∧
        ∃ f, w.reaches child self = .error f ∧ f.isCycle = false := by
  unfold reaches
  cases own : Assoc.get? (w.router child).overrides "_reaches" with
  | none => exact .inl rfl
  | some o =>
    refine .inr ⟨by simp, ?_⟩
    cases o with
    | method => exact ⟨_, rfl, Router.isCycle_missing _ _⟩
    | _ => exact ⟨_, rfl, Router.isCycle_misuse _ _ _ _⟩

/-- What leads to a router goes through if that one does not contain the one it is put into, and is
refused because of a cycle if it does; or a class has something else in the place of asking. -/
theorem expectNoCycle_cases (w : World) (self : RouterRef) {child : RouterRef}
    (leads : h.child? = some child) :
    (¬ Contains w.children child self ∧ w.expectNoCycle self h = .ok ()) ∨
    (Contains w.children child self ∧ ∃ f, w.expectNoCycle self h = .error f ∧ f.isCycle = true) ∨
    (¬ w.AsksChild h ∧ ∃ f, w.expectNoCycle self h = .error f ∧ f.isCycle = false) := by
  unfold expectNoCycle
  simp only [leads]
  by_cases same : child = self
  · subst same
    exact .inr (.inl ⟨.refl child, .containsItself, by simp, rfl⟩)
  · simp only [same, if_false]
    obtain asked | ⟨other, f, asked, noCycle⟩ := w.reaches_cases child self
    · rw [asked]
      cases found : w.contains child self with
      | true => exact .inr (.inl ⟨(w.contains_iff child self).1 found, _, rfl, rfl⟩)
      | false =>
        refine .inl ⟨fun inside => ?_, rfl⟩
        rw [(w.contains_iff child self).2 inside] at found
        cases found
    · rw [asked]
      exact .inr (.inr ⟨fun asks => other (asks child leads), f, rfl, noCycle⟩)

theorem router_congr {v w : World} (same : v.routers = w.routers) (r : RouterRef) :
    v.router r = w.router r := by
  simp only [World.router, same]

theorem router_setRouter (w : World) (r s : RouterRef) (router : Router) :
    (w.setRouter r router).router s = if s = r then router else w.router s := by
  split
  · next same => rw [same, router_setRouter_self]
  · next apart => exact router_setRouter_of_ne w router apart

section

variable (w : World) (self : RouterRef) (h : Handler) (error : Bool) (name : Value)
variable (derived : Option String) (options : Assoc Value)

theorem register_of_passes [Telling] (passes : w.expectNoCycle self h = .ok ()) :
    w.register self h error name derived options =
      let answer := (w.router self).register (Assoc.names w.pluginClasses) h error name
        (w.derivedName h derived) (h.reach w.router) options
      (answer.1, w.setRouter self answer.2) := by
  unfold World.register
  rw [passes]

/-- A registration that is not refused because of a cycle does not fail because of one later, and
puts at most its handler into the router. -/
theorem register_of_expectNoCycle (passes : w.expectNoCycle self h = .ok ()) :
    let answer := w.register self h error name derived options
    NoCycle answer.1 ∧ ∀ r s, s ∈ answer.2.children r ↔
      s ∈ w.children r ∨ r = self ∧ answer.1 = .ok () ∧ h.child? = some s := by
  have named : NoCycle (w.derivedName h derived) := by
    cases derived with
    | some s => exact .ok _
    | none => exact h.defaultName_noCycle w.router
  rw [w.register_of_passes self h error name derived options passes]
  obtain ⟨noCycle, inside⟩ := (w.router self).register_children named (h.reach_noCycle w.router)
  refine ⟨noCycle, fun r s => ?_⟩
  simp only [children, router_setRouter]
  split
  · next same => simpa [same] using inside s
  · next apart => simp [apart]

theorem register_of_refused [Telling] {f : Failure} (refused : w.expectNoCycle self h = .error f) :
    w.register self h error name derived options = (.error f, w) := by
  unfold register
  rw [refused]

/-- No registration closes a cycle. -/
theorem register_acyclic (acyclic : Acyclic w.children) :
    Acyclic (w.register self h error name derived options).2.children := by
  cases passes : w.expectNoCycle self h with
  | error f =>
    rw [w.register_of_refused self h error name derived options passes]
    exact acyclic
  | ok _ =>
    obtain ⟨-, inside⟩ := w.register_of_expectNoCycle self h error name derived options passes
    have apart : ∀ child, h.child? = some child → ¬ Contains w.children child self := by
      intro child leads around
      obtain ⟨apart, -⟩ | ⟨-, f, refused, -⟩ | ⟨-, f, refused, -⟩ :=
        w.expectNoCycle_cases self leads
      · exact apart around
      · rw [refused] at passes
        cases passes
      · rw [refused] at passes
        cases passes
    have within := (acyclic_addInside_iff acyclic self h.child?).2 apart
    exact within.anti fun r s hs =>
      mem_addInside.2 (((inside r s).1 hs).imp_right fun put => ⟨put.1, put.2.2⟩)

/-- What would close a cycle is refused, and nothing changes. -/
theorem register_of_closesCycle (acyclic : Acyclic w.children) (closes : w.ClosesCycle self h) :
    ∃ f, w.register self h error name derived options = (.error f, w) ∧
      (w.AsksChild h → f.isCycle = true) := by
  obtain ⟨child, leads, around⟩ := (closesCycle_iff acyclic).1 closes
  obtain ⟨apart, -⟩ | ⟨-, f, refused, cycle⟩ | ⟨other, f, refused, -⟩ :=
    w.expectNoCycle_cases self leads
  · exact absurd around apart
  · exact ⟨f, w.register_of_refused self h error name derived options refused, fun _ => cycle⟩
  · exact ⟨f, w.register_of_refused self h error name derived options refused,
      fun asks => absurd asks other⟩

/-- Only what would close a cycle is refused because of one. -/
theorem closesCycle_of_register (acyclic : Acyclic w.children) {f : Failure}
    (refused : (w.register self h error name derived options).1 = .error f)
    (cycle : f.isCycle = true) : w.ClosesCycle self h := by
  rw [closesCycle_iff acyclic]
  cases passes : w.expectNoCycle self h with
  | ok _ =>
    obtain ⟨noCycle, -⟩ := w.register_of_expectNoCycle self h error name derived options passes
    rw [noCycle f refused] at cycle
    cases cycle
  | error g =>
    rw [w.register_of_refused self h error name derived options passes] at refused
    cases refused
    cases leads : h.child? with
    | none => simp [expectNoCycle, leads] at passes
    | some child =>
      obtain ⟨-, goes⟩ | ⟨around, -⟩ | ⟨-, g, other, noCycle⟩ :=
        w.expectNoCycle_cases self leads
      · rw [goes] at passes
        cases passes
      · exact ⟨child, rfl, around⟩
      · rw [other] at passes
        cases passes
        rw [noCycle] at cycle
        cases cycle

end

end World
end HandlerChains
