import HandlerChains.Router.Containment
import Mathlib.Data.List.Nodup
import Mathlib.Data.List.Perm.Subperm

/-!
# Containment without cycles

The search finds a router exactly if it is contained. Where no router contains itself, a router can
be put into another one without closing a cycle exactly if it does not contain that one yet; and the
levels of routers inside each other are no more than there are routers that contain any.
-/

namespace HandlerChains
namespace Containment

variable {children children' : RouterRef → List RouterRef} {r s t self : RouterRef}

namespace Contains

theorem single (edge : s ∈ children r) : Contains children r s := .inside edge (.refl s)

theorem trans (outer : Contains children r s) (inner : Contains children s t) :
    Contains children r t := by
  induction outer with
  | refl => exact inner
  | inside edge _ ih => exact .inside edge (ih inner)

theorem closed {holds : RouterRef → Prop} (h : Contains children r s) (start : holds r)
    (closes : ∀ s, holds s → ∀ t ∈ children s, holds t) : holds s := by
  induction h with
  | refl => exact start
  | inside edge _ ih => exact ih (closes _ start _ edge)

theorem mono (more : ∀ r s, s ∈ children r → s ∈ children' r) (h : Contains children r s) :
    Contains children' r s := by
  induction h with
  | refl r => exact .refl r
  | inside edge _ ih => exact .inside (more _ _ edge) ih

end Contains

/-! ## The search -/

/-- What is not found is outside of a set that holds all pending routers, and with a router that was
unseen everything directly inside it. -/
theorem closed_of_search {target : RouterRef} {unseen pending : List RouterRef}
    (lost : search children target unseen pending = false) :
    ∃ closed : RouterRef → Prop, (∀ r ∈ pending, closed r) ∧ ¬ closed target ∧
      ∀ r ∈ unseen, closed r → ∀ s ∈ children r, closed s := by
  fun_induction search children target unseen pending with
  | case1 unseen => exact ⟨fun _ => False, by simp, by simp, by simp⟩
  | case2 => cases lost
  | case3 unseen r pending other _ ih =>
    obtain ⟨closed, holds, misses, closes⟩ := ih lost
    have below : ∀ s ∈ children r, closed s := fun s hs => holds s (by simp [hs])
    refine ⟨fun s => s = r ∨ closed s, ?_, ?_, ?_⟩
    · intro s hs
      rcases List.mem_cons.1 hs with rfl | waiting
      · exact .inl rfl
      · exact .inr (holds s (by simp [waiting]))
    · rintro (rfl | found)
      · exact other rfl
      · exact misses found
    · intro s hs is t ht
      by_cases same : s = r
      · subst same
        exact .inr (below t ht)
      · have unseen' := (List.mem_erase_of_ne same).2 hs
        exact .inr (closes s unseen' (is.resolve_left same) t ht)
  | case4 unseen r pending other seen ih =>
    obtain ⟨closed, holds, misses, closes⟩ := ih lost
    refine ⟨fun s => s = r ∨ closed s, ?_, ?_, ?_⟩
    · intro s hs
      exact (List.mem_cons.1 hs).imp_right (holds s)
    · rintro (rfl | found)
      · exact other rfl
      · exact misses found
    · intro s hs is t ht
      have apart : s ≠ r := fun same => seen (same ▸ hs)
      exact .inr (closes s hs (is.resolve_left apart) t ht)

/-- The search finds exactly what is contained, if only the routers below `size` contain any. -/
theorem contains_iff {size : Nat} (empty : ∀ r, size ≤ r → children r = []) (r target : RouterRef) :
    contains children size r target = true ↔ Contains children r target := by
  constructor
  · intro found
    obtain ⟨s, hs, inside⟩ := contains_of_search children found
    rwa [List.mem_singleton.1 hs] at inside
  · intro inside
    by_contra lost
    obtain ⟨closed, holds, misses, closes⟩ :=
      closed_of_search (Bool.eq_false_iff.2 lost : search children target _ [r] = false)
    refine misses (inside.closed (holds r (by simp)) fun s hs t ht => ?_)
    by_cases small : s < size
    · exact closes s (List.mem_range.2 small) hs t ht
    · rw [empty s (Nat.le_of_not_lt small)] at ht
      cases ht

/-! ## Cycles -/

/-- No router contains one that contains it. -/
def Acyclic (children : RouterRef → List RouterRef) : Prop :=
  ∀ r s, s ∈ children r → ¬ Contains children s r

theorem Acyclic.anti (acyclic : Acyclic children')
    (less : ∀ r s, s ∈ children r → s ∈ children' r) : Acyclic children :=
  fun r s edge around => acyclic r s (less r s edge) (around.mono less)

/-- Containment once a router has another one inside as well. -/
def addInside (children : RouterRef → List RouterRef) (self : RouterRef)
    (added : Option RouterRef) (r : RouterRef) : List RouterRef :=
  if r = self then children r ++ added.toList else children r

theorem mem_addInside {added : Option RouterRef} :
    s ∈ addInside children self added r ↔ s ∈ children r ∨ r = self ∧ added = some s := by
  unfold addInside
  split <;> simp_all

/-- What a router contains once another one was put somewhere, it contained before, or it leads to
the one that was put there. -/
theorem Contains.of_addInside {added : RouterRef}
    (h : Contains (addInside children self (some added)) r s) :
    Contains children r s ∨ Contains children r self ∧ Contains children added s := by
  induction h with
  | refl r => exact .inl (.refl r)
  | inside edge _ ih =>
    rcases mem_addInside.1 edge with old | ⟨rfl, same⟩
    · exact ih.imp (.inside old) fun through => ⟨.inside old through.1, through.2⟩
    · obtain rfl := Option.some.inj same
      exact .inr ⟨.refl _, ih.elim id And.right⟩

/-- A router can be put into another one without closing a cycle exactly if it does not contain that
one. -/
theorem acyclic_addInside_iff (acyclic : Acyclic children) (self : RouterRef)
    (added : Option RouterRef) :
    Acyclic (addInside children self added) ↔
      ∀ child, added = some child → ¬ Contains children child self := by
  constructor
  · rintro still child rfl around
    have more : ∀ r s, s ∈ children r → s ∈ addInside children self (some child) r :=
      fun r s hs => mem_addInside.2 (.inl hs)
    exact still self child (mem_addInside.2 (.inr ⟨rfl, rfl⟩)) (around.mono more)
  · intro apart r s edge around
    cases added with
    | none =>
      have old : s ∈ children r := by simpa [mem_addInside] using edge
      exact acyclic r s old (around.mono (by simp [mem_addInside]))
    | some child =>
      have apart := apart child rfl
      rcases mem_addInside.1 edge with old | ⟨rfl, same⟩
      · rcases around.of_addInside with direct | ⟨up, down⟩
        · exact acyclic r s old direct
        · exact apart (down.trans (.inside old up))
      · obtain rfl := Option.some.inj same
        exact apart (around.of_addInside.elim id And.left)

/-! ## Levels -/

/-- Less than so many routers are inside each other, the given one outermost. -/
def Fits (children : RouterRef → List RouterRef) : Nat → RouterRef → Prop
  | 0, _ => False
  | n + 1, r => ∀ s ∈ children r, Fits children n s

theorem Fits.mono {n m : Nat} (h : Fits children n r) (le : n ≤ m) : Fits children m r := by
  induction m generalizing n r with
  | zero =>
    obtain rfl : n = 0 := by omega
    exact h
  | succ m ih =>
    cases n with
    | zero => exact h.elim
    | succ n => exact fun s hs => ih (h s hs) (by omega)

theorem Fits.acc {n : Nat} (h : Fits children n r) : Acc (fun s r => s ∈ children r) r := by
  induction n generalizing r with
  | zero => exact h.elim
  | succ n ih => exact .intro r fun s hs => ih (h s hs)

def Below (children : RouterRef → List RouterRef) (r s : RouterRef) : Prop :=
  ∃ t ∈ children r, Contains children t s

theorem Below.inside (h : Below children r s) (edge : t ∈ children s) : Below children r t := by
  obtain ⟨u, hu, down⟩ := h
  exact ⟨u, hu, down.trans (.single edge)⟩

theorem length_lt_of_not_mem {size : Nat} {path : List RouterRef} (distinct : path.Nodup)
    (bounded : ∀ s ∈ path, s < size) (small : r < size) (new : r ∉ path) : path.length < size := by
  have sub : r :: path ⊆ List.range size := by
    intro s hs
    rcases List.mem_cons.1 hs with rfl | old
    · exact List.mem_range.2 small
    · exact List.mem_range.2 (bounded s old)
  have le := ((List.nodup_cons.2 ⟨new, distinct⟩).subperm sub).length_le
  rw [List.length_cons, List.length_range] at le
  exact le

/-- The routers on the way down to one are different ones, and each of them takes a level of those
that there is room for. -/
theorem fits_below {size gap : Nat} (empty : ∀ r, size ≤ r → children r = [])
    (loopless : ∀ s, Contains children r s → ¬ Below children s s) {path : List RouterRef}
    (distinct : path.Nodup) (bounded : ∀ s ∈ path, s < size)
    (above : ∀ s ∈ path, Below children s r) (room : size ≤ path.length + gap) :
    Fits children (gap + 1) r := by
  induction gap generalizing path r with
  | zero =>
    intro s hs
    have small : r < size := Nat.lt_of_not_le fun large => by simp [empty r large] at hs
    have new : r ∉ path := fun old => loopless r (.refl r) (above r old)
    have := length_lt_of_not_mem distinct bounded small new
    omega
  | succ gap ih =>
    intro s hs
    have small : r < size := Nat.lt_of_not_le fun large => by simp [empty r large] at hs
    have new : r ∉ path := fun old => loopless r (.refl r) (above r old)
    have below : Below children r s := ⟨s, hs, .refl s⟩
    refine ih (fun t ht => loopless t (.inside hs ht))
      (List.nodup_cons.2 ⟨new, distinct⟩) ?_ ?_ (by simp only [List.length_cons]; omega)
    · exact List.forall_mem_cons.2 ⟨small, bounded⟩
    · exact List.forall_mem_cons.2 ⟨below, fun t ht => (above t ht).inside hs⟩

/-- Where nothing inside a router contains itself, there are at most as many levels below it as
there are routers that contain any. -/
theorem fits_of_loopless {size : Nat} (empty : ∀ r, size ≤ r → children r = [])
    (loopless : ∀ s, Contains children r s → ¬ Below children s s) :
    Fits children (size + 1) r :=
  fits_below empty loopless List.nodup_nil (by simp) (by simp) (by simp)

theorem Acyclic.loopless (acyclic : Acyclic children) (r : RouterRef) : ¬ Below children r r :=
  fun ⟨s, hs, around⟩ => acyclic r s hs around

theorem Acyclic.wellFounded {size : Nat} (empty : ∀ r, size ≤ r → children r = [])
    (acyclic : Acyclic children) : WellFounded fun s r => s ∈ children r :=
  ⟨fun _ => (fits_of_loopless empty fun s _ => acyclic.loopless s).acc⟩

theorem loopless_of_acc (h : Acc (fun s r => s ∈ children r) r) :
    ∀ s, Contains children r s → ¬ Below children s s := by
  induction h with
  | intro r _ ih =>
    intro s inside
    cases inside with
    | refl =>
      rintro ⟨t, ht, around⟩
      exact ih t ht r around ⟨t, ht, around⟩
    | inside edge inside => exact ih _ edge s inside

end Containment
end HandlerChains
