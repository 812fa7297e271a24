import HandlerChains.Proofs.Plugin.Writes
import Mathlib.Data.Set.Insert

/-!
# Steps that keep to their places

A step may change a store at some places only, and go by nothing but what is held there and at some
further places: neither by the rest of the store nor by the circumstances that it is made in. Two
such steps of which neither changes what the other one goes by can be made in either order.
-/

namespace HandlerChains

/-- A place of a store: what a plugin holds under a key. -/
abbrev StorePlace := String × Key

namespace PluginStore

variable {S T : Set StorePlace} {s t u : PluginStore}

def SameAt (S : Set StorePlace) (s t : PluginStore) : Prop :=
  ∀ place ∈ S, s.slot? place.1 place.2 = t.slot? place.1 place.2

theorem Same.at (h : Same s t) (S : Set StorePlace) : SameAt S s t :=
  fun place _ => h place.1 place.2

namespace SameAt

theorem symm (h : SameAt S s t) : SameAt S t s := fun place mem => (h place mem).symm

theorem trans (h : SameAt S s t) (h' : SameAt S t u) : SameAt S s u :=
  fun place mem => (h place mem).trans (h' place mem)

theorem mono (h : SameAt T s t) (sub : S ⊆ T) : SameAt S s t := fun place mem => h place (sub mem)

theorem same (h : SameAt Set.univ s t) : Same s t := fun plugin target => h (plugin, target) trivial

end SameAt
end PluginStore

/-- What a step makes of a store in some circumstances if it succeeds, and what else comes of it. -/
abbrev Step (ι α : Type) := ι → PluginStore → α → PluginStore → Prop

namespace Step

open PluginStore

variable {ι κ α β : Type} {S T R Q : Set StorePlace}

/-- A step that changes nothing but the places in `S`, and does the same to all stores that hold the
same there and at the places in `R`, whatever the circumstances. -/
structure Within (S R : Set StorePlace) (x : Step ι α) : Prop where
  keeps : ∀ {i s a t}, x i s a t → SameAt Sᶜ s t
  again : ∀ {i s a t}, x i s a t → ∀ j {s'}, SameAt (S ∪ R) s s' →
    ∃ t', x j s' a t' ∧ SameAt S t t'

/-- One step and then another one, which may go by what came of the first. -/
def andThen (x : Step ι α) (y : α → Step κ β) : Step (ι × κ) (α × β) :=
  fun i s ab t => ∃ u, x i.1 s ab.1 u ∧ y ab.1 i.2 u ab.2 t

namespace Within

variable {x : Step ι α} {y : α → Step κ β}

/-- What a step leaves as it is in two stores, they still agree on if they did. -/
theorem agrees (h : x.Within S R) {i j : ι} {s s' t t' : PluginStore} {a a' : α}
    (made : x i s a t) (made' : x j s' a' t') (same : SameAt T s s') (here : SameAt S t t') :
    SameAt T t t' := by
  intro place mem
  by_cases inside : place ∈ S
  · exact here place inside
  · have before := (h.keeps made place inside).symm.trans (same place mem)
    exact before.trans (h.keeps made' place inside)

theorem mono (h : x.Within S R) (sub : S ⊆ T) (sub' : R ⊆ Q) : x.Within T Q where
  keeps made := (h.keeps made).mono fun _ outside inside => outside (sub inside)
  again {i s a t} made j s' same := by
    obtain ⟨t', made', here⟩ := h.again made j (same.mono (Set.union_subset_union sub sub'))
    exact ⟨t', made', h.agrees made made' (same.mono Set.subset_union_left) here⟩

theorem andThen (hx : x.Within S R) (hy : ∀ {i s a t}, x i s a t → (y a).Within S R) :
    (x.andThen y).Within S R where
  keeps := by
    rintro i s ⟨a, b⟩ t ⟨u, first, second⟩
    exact (hx.keeps first).trans ((hy first).keeps second)
  again := by
    rintro i s ⟨a, b⟩ t ⟨u, first, second⟩ j s' same
    obtain ⟨u', first', here⟩ := hx.again first j.1 same
    obtain ⟨t', second', here⟩ :=
      (hy first).again second j.2 (hx.agrees first first' same here)
    exact ⟨t', ⟨u', first', second'⟩, here⟩

theorem same (h : x.Within S R) {i : ι} {s s' t : PluginStore} {a : α} (made : x i s a t) (j : ι)
    (same : Same s s') : ∃ t', x j s' a t' ∧ Same t t' := by
  obtain ⟨t', made', here⟩ := h.again made j (same.at _)
  exact ⟨t', made', (h.agrees made made' (same.at Set.univ) here).same⟩

end Within

variable {plugin : String} {on : Key → Prop} {step : PluginStore → Except Failure PluginStore}

/-- What makes its writes in any store keeps to the places of these. -/
theorem within_of_writes (writes : Writes plugin on step) :
    Within {place | place.1 = plugin ∧ on place.2} ∅
      (fun (_ : ι) s (_ : Unit) t => step s = .ok t) where
  keeps made := by
    obtain ⟨ws, places, rfl⟩ := writes.eq_ok made
    intro place outside
    rw [slot?_writeEach, Write.configsAt_eq_nil]
    · rfl
    · intro w mem isPlugin isTarget
      have here := places w mem
      rw [isPlugin, isTarget] at here
      exact outside here
  again {_ s _ t} made _ s' same := by
    obtain ⟨f, refused⟩ | ⟨ws, places, written⟩ := writes
    · rw [refused] at made
      cases made
    · obtain rfl := Except.ok.inj ((written s).symm.trans made)
      refine ⟨_, written s', fun place mem => ?_⟩
      rw [slot?_writeEach, slot?_writeEach, same place (.inl mem)]

theorem within_openBucket (plugin : String) :
    Within {place | place.1 = plugin} ∅
      (fun (_ : ι) s (_ : Unit) t => t = s.openBucket plugin) where
  keeps made := by
    subst made
    intro place outside
    rw [slot?_openBucket, if_neg fun here => outside here.1]
  again made _ s' same := by
    subst made
    refine ⟨_, rfl, fun place mem => ?_⟩
    rw [slot?_openBucket, slot?_openBucket, same place (.inl mem)]

end Step
end HandlerChains
