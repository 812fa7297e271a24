import HandlerChains.Proofs.Dispatch.Invariant

/-!
# Going on behind a no

Only behind a no does a run go on: to what a layer does afterwards, or to the next handler. Some
facts about executions are about those that end with a no, or with some other kind of value. What
comes after a value of another kind must then not end so. `Judges` lists what such a fact has to
satisfy; it goes through the layers around an entry and along a chain.
-/

namespace HandlerChains
namespace Dispatch

open Exec

def IsNo (v : Value) : Prop := v.isTruthy = false

theorem not_isNo_true : ¬ IsNo (.bool true) := nofun

/-- An execution never ends with certain values. -/
def Never {α : Type} (no : α → Prop) (x : Exec α) : Prop :=
  ∀ w a, (x w).result = .ok a → ¬ no a

namespace Never

variable {α β : Type} {no : α → Prop}

theorem pure {a : α} (h : ¬ no a) : Never no (Pure.pure a : Exec α) := by
  rintro w _ ⟨⟩
  exact h

theorem fail (f : Failure) : Never no (Exec.fail f : Exec α) := by
  intro w a h
  cases h

theorem bind {x : Exec β} {f : β → Exec α} (hf : ∀ b, Never no (f b)) : Never no (x >>= f) := by
  intro w a h
  rw [bind_apply] at h
  rcases hw : x w with ⟨course, stop | b, w'⟩
  · rw [hw] at h
    cases h
  · rw [hw] at h
    exact hf b w' a h

theorem ite {p : Prop} [Decidable p] {x y : Exec α} (hx : Never no x) (hy : Never no y) :
    Never no (if p then x else y) := by
  split
  · exact hx
  · exact hy

end Never

section

variable {calls : Calls} {inner : RouterRef → ContextRef → Exec Value} {c : ContextRef}

theorem serve_never (a : Action) : Never IsNo (serve calls a c) :=
  .bind fun _ => .pure not_isNo_true

theorem recover_never (r : RouterRef) (i : Nat) (f : Failure) :
    Never (· = false) (recover calls inner r c i f) := by
  refine .bind fun _ => .bind fun _ => .bind fun _ => .bind fun _ => .bind fun _ => .ite ?_ ?_
  · exact .pure nofun
  · exact .bind fun _ => .fail f

end

/-- Something that is known of executions that end with a value of some kind, and something that is
known of those that never do. The first holds of steps for which a relation holds. -/
structure Judges (R : World → Course → World → Prop)
    (judged idle : ∀ α : Type, (α → Prop) → Exec α → Prop) : Prop extends SideInvariant R where
  respects : ∀ {α no x}, Respects R x → judged α no x
  never : ∀ {α no x}, Respects R x → Never no x → idle α no x
  bind : ∀ {α β mid no} {x : Exec α} {f : α → Exec β}, judged α mid x →
    (∀ a, mid a → judged β no (f a)) → (∀ a, ¬ mid a → idle β no (f a)) → judged β no (x >>= f)
  attempt : ∀ {α no x}, judged α no x →
    judged _ (fun result => ∃ a, result = .ok a ∧ no a) (Exec.attempt x)

namespace Judges

variable {R : World → Course → World → Prop}
variable {judged idle : ∀ α : Type, (α → Prop) → Exec α → Prop} {α β : Type} {no : β → Prop}

theorem after (h : Judges R judged idle) {x : Exec α} {f : α → Exec β} (hx : Respects R x)
    (hf : ∀ a, judged β no (f a)) : judged β no (x >>= f) := by
  have any : judged α (fun _ => True) x := h.respects hx
  exact h.bind any (fun a _ => hf a) fun _ other => absurd trivial other

/-! ## Layers -/

variable {no : Value → Prop} {next : Exec Value}

theorem report (h : Judges R judged idle) (l : Layer) (router : Value)
    (settings : Layer.LogSettings) (hn : judged Value no next) :
    judged Value no (l.report router settings next) := by
  have hR := h.toComposes
  refine h.after (h.emit l _ _ _ _) fun _ => h.bind (h.attempt hn) ?_ ?_
  · rintro _ ⟨v, rfl, -⟩
    exact h.after (h.emit l _ _ _ _) fun _ => h.respects (.pure hR v)
  · rintro (f | v) other
    · exact h.never (.bind hR (h.emit l _ _ _ _) fun _ => .fail hR f) (.bind fun _ => .fail f)
    · exact h.never (.bind hR (h.emit l _ _ _ _) fun _ => .pure hR v)
        (.bind fun _ => .pure fun yes => other ⟨v, rfl, yes⟩)

theorem wrap (h : Judges R judged idle) (l : Layer) (hn : judged Value no next) :
    judged Value no (l.wrap next) := by
  have hR := h.toComposes
  have recorded (e : Event) : Respects R (record e) := .modify fun w => h.event w e
  unfold Layer.wrap
  split
  · exact hn
  · exact hn
  · refine h.after (h.expectStore l _ _) fun _ => h.after (h.layerStore l) fun _ => ?_
    dsimp only
    split
    · exact h.respects (.fail hR _)
    · refine h.after (h.expectStore l _ _) fun _ => h.after (.modify fun w => ?_) fun _ => hn
      exact h.store w _ _
  · refine h.after (recorded _) fun _ => h.bind hn (fun v _ => ?_) fun v other => ?_
    · exact h.respects (.bind hR (recorded _) fun _ => .pure hR v)
    · exact h.never (.bind hR (recorded _) fun _ => .pure hR v) (.bind fun _ => .pure other)
  · refine h.after (h.layerStore l) fun _ => ?_
    split
    · exact h.respects (.pure hR _)
    · exact h.respects (.pure hR _)
    · exact h.respects (.fail hR _)
    · exact hn
  · refine h.after (.router hR _) fun _ => ?_
    dsimp only
    split
    · exact h.report l _ _ hn
    · exact hn

theorem throughLayers (h : Judges R judged idle) (r : RouterRef) (e : Entry)
    (hn : judged Value no next) : judged Value no (throughLayers r e next) := by
  have call (l : Layer) {next : Exec Value} (hn : judged Value no next) :
      judged Value no (l.call next) := by
    refine h.after (h.expectStore l _ _) fun _ => h.after (h.layerStore l) fun _ => ?_
    split
    · exact h.wrap l hn
    · exact hn
  unfold Dispatch.throughLayers
  induction e.layers with
  | nil => exact hn
  | cons p layers ih => exact call _ ih

/-! ## Chains -/

theorem firstMatchOr (h : Judges R judged idle) {recover : Nat → Failure → Exec Bool}
    {call : Nat → Exec Value}
    (hcall : ∀ i, judged Value IsNo (call i))
    (hrecover : ∀ i f, idle Bool (· = false) (recover i f)) (places : List Nat) :
    judged Bool (· = false) (firstMatchOr recover call places) := by
  have hR := h.toComposes
  induction places with
  | nil => exact h.respects (.pure hR false)
  | cons i places ih =>
    refine h.bind (h.attempt (hcall i)) ?_ ?_
    · rintro _ ⟨v, rfl, no⟩
      have no : v.isTruthy = false := no
      simp only [no, Bool.false_eq_true, if_false]
      exact ih
    · rintro (f | v) other
      · exact hrecover i f
      · have yes : v.isTruthy = true := Bool.of_not_eq_false fun no => other ⟨v, rfl, no⟩
        simp only [yes, if_true]
        exact h.never (.pure hR true) (.pure (by simp))

end Judges
end Dispatch
end HandlerChains
