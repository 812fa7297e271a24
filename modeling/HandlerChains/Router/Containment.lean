import HandlerChains.Router.Basic

/-!
# Containment of routers

A router contains the routers inside its handlers and whatever those contain. The search visits each
router once: it goes on as long as something is pending, and looks inside a router only the first
time it meets it.
-/

namespace HandlerChains
namespace Containment

variable (children : RouterRef → List RouterRef)

/-- `Contains r s`: `s` is `r` or lies somewhere inside it. -/
inductive Contains : RouterRef → RouterRef → Prop
  | refl (r : RouterRef) : Contains r r
  | inside {r s t : RouterRef} : s ∈ children r → Contains s t → Contains r t

/-- Whether the target is found from the pending routers, of which only unseen ones are opened. -/
def search (target : RouterRef) : (unseen pending : List RouterRef) → Bool
  | _, [] => false
  | unseen, r :: pending =>
    if r = target then true
    else if _h : r ∈ unseen then search target (unseen.erase r) (children r ++ pending)
    else search target unseen pending
termination_by unseen pending => (unseen.length, pending.length)
decreasing_by
  · have := List.length_pos_of_mem _h
    have := List.length_erase_of_mem _h
    exact Prod.Lex.left _ _ (by omega)
  · exact Prod.Lex.right _ (by simp)

def contains (size : Nat) (r target : RouterRef) : Bool :=
  search children target (List.range size) [r]

/-- What the search finds lies inside one of the pending routers. -/
theorem contains_of_search {target : RouterRef} {unseen pending : List RouterRef}
    (found : search children target unseen pending = true) :
    ∃ r ∈ pending, Contains children r target := by
  fun_induction search children target unseen pending with
  | case1 => simp at found
  | case2 unseen pending => exact ⟨_, List.mem_cons_self, .refl _⟩
  | case3 unseen r pending _ _ ih =>
    obtain ⟨s, mem, inside⟩ := ih found
    rcases List.mem_append.1 mem with child | waiting
    · exact ⟨r, List.mem_cons_self, .inside child inside⟩
    · exact ⟨s, List.mem_cons_of_mem _ waiting, inside⟩
  | case4 unseen r pending _ _ ih =>
    obtain ⟨s, mem, inside⟩ := ih found
    exact ⟨s, List.mem_cons_of_mem _ mem, inside⟩

end Containment
end HandlerChains
