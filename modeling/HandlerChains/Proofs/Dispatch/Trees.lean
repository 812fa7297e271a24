import HandlerChains.Proofs.Dispatch.Layers
import HandlerChains.Router.Containment

/-!
# Trees of routers

What holds of a router and of all those inside it. It goes over to each router directly inside, and
nothing that plugins keep has a part in it.
-/

namespace HandlerChains

open Containment

namespace Router

theorem child_mem {r : Router} {e : Entry} {s : RouterRef} (mem : e ∈ r.entries)
    (inside : e.handler.child? = some s) : s ∈ r.children :=
  List.mem_filterMap.2 ⟨e, mem, inside⟩

end Router

namespace World

variable {P : Router → Prop} {w w' w'' : World} {r s : RouterRef}

/-- Something holds of a router and of all those inside it. -/
def Throughout (P : Router → Prop) (w : World) (r : RouterRef) : Prop :=
  ∀ s, Contains (fun s => (w.router s).children) r s → P (w.router s)

theorem Throughout.self (h : w.Throughout P r) : P (w.router r) := h r (.refl r)

theorem Throughout.child (h : w.Throughout P r) (inside : s ∈ (w.router r).children) :
    w.Throughout P s :=
  fun t ht => h t (.inside inside ht)

theorem throughout_of_forall (h : ∀ r, P (w.router r)) (r : RouterRef) : w.Throughout P r :=
  fun s _ => h s

theorem Throughout.of_alike (h : w.Throughout P r)
    (same : ∀ r, ∃ s, w'.router r = { w.router r with store := s })
    (keeps : ∀ t s, P t → P { t with store := s }) : w'.Throughout P r := by
  have children : (fun s => (w'.router s).children) = fun s => (w.router s).children := by
    funext s
    obtain ⟨store, hs⟩ := same s
    rw [hs]
    rfl
  intro s hs
  rw [children] at hs
  obtain ⟨store, eq⟩ := same s
  rw [eq]
  exact keeps _ store (h s hs)

def KeepsThroughout (P : Router → Prop) (w w' : World) : Prop :=
  ∀ r, w.Throughout P r → w'.Throughout P r

theorem KeepsThroughout.refl (w : World) : KeepsThroughout P w w := fun _ h => h

theorem KeepsThroughout.trans (h : KeepsThroughout P w w') (h' : KeepsThroughout P w' w'') :
    KeepsThroughout P w w'' :=
  fun r hr => h' r (h r hr)

theorem KeepsThroughout.of_alike (h : Alike w w') (keeps : ∀ t s, P t → P { t with store := s }) :
    KeepsThroughout P w w' :=
  fun _ hr => hr.of_alike h.router keeps

end World
end HandlerChains
