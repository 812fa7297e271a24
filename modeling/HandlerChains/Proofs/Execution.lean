import HandlerChains.Exec

/-!
# What executions leave behind

A relation between the world before an execution, its course, and the world after it. If it holds of
doing nothing and of one execution after another, then it holds of whatever is put together from
parts of which it holds.
-/

namespace HandlerChains

namespace Course

/-- The calls in a course, each with what happened inside it. Those inside other calls are not
listed by themselves. -/
def calls : Course → List (Passage × Course)
  | done => []
  | step p inside rest => (if p.stage.isCall then [(p, inside)] else inside.calls) ++ rest.calls

@[simp] theorem calls_append (s t : Course) : (s ++ t).calls = s.calls ++ t.calls := by
  induction s with
  | done => rfl
  | step p inside rest _ ih => simp [calls, ih]

end Course

/-- A relation that holds of doing nothing, and of one execution after another. -/
structure Composes (R : World → Course → World → Prop) : Prop where
  done : ∀ w, R w .done w
  append : ∀ {w₁ w₂ w₃ s t}, R w₁ s w₂ → R w₂ t w₃ → R w₁ (s ++ t) w₃

namespace Exec

/-- An execution ends with a value, and leaves a world. -/
structure Returns {α : Type} (x : Exec α) (w : World) (a : α) (w' : World) : Prop where
  result : (x w).result = .ok a
  world : (x w).world = w'

theorem bind_result {α β : Type} {x : Exec α} {w : World} {a : α}
    (result : (x w).result = .ok a) (f : α → Exec β) :
    ((x >>= f) w).result = (f a (x w).world).result ∧
      ((x >>= f) w).world = (f a (x w).world).world := by
  rw [bind_apply]
  rcases hw : x w with ⟨course, s | b, v⟩ <;> rw [hw] at result <;> cases result
  exact ⟨rfl, rfl⟩

theorem bind_stopped {α β : Type} {x : Exec α} {w : World} {s : Stop}
    (result : (x w).result = .error s) (f : α → Exec β) : ((x >>= f) w).result = .error s := by
  rw [bind_apply]
  rcases hw : x w with ⟨course, t | b, v⟩ <;> rw [hw] at result <;> cases result
  rfl

namespace Returns

variable {α β : Type} {w w' : World} {a : α} {b : β}

theorem of_result {x : Exec α} (done : (x w).result = .ok a) : Returns x w a (x w).world :=
  ⟨done, rfl⟩

theorem of_bind {x : Exec α} {f : α → Exec β} (returns : Returns (x >>= f) w b w') :
    ∃ a v, Returns x w a v ∧ Returns (f a) v b w' := by
  obtain ⟨result, world⟩ := returns
  rw [bind_apply] at result world
  rcases hw : x w with ⟨course, stop | a, v⟩
  · rw [hw] at result
    cases result
  · rw [hw] at result world
    exact ⟨a, v, ⟨by rw [hw], by rw [hw]⟩, result, world⟩

theorem of_pure {a' : α} (returns : Returns (pure a : Exec α) w a' w') : a = a' ∧ w = w' := by
  obtain ⟨result, rfl⟩ := returns
  cases result
  exact ⟨rfl, rfl⟩

theorem of_get {v : World} (returns : Returns (MonadState.get : Exec World) w v w') :
    w = v ∧ w = w' := by
  obtain ⟨result, rfl⟩ := returns
  cases result
  exact ⟨rfl, rfl⟩

theorem of_lift {x : Except Failure α} (returns : Returns (lift x) w a w') :
    x = .ok a ∧ w = w' := by
  obtain ⟨result, rfl⟩ := returns
  cases x with
  | ok b =>
    cases result
    exact ⟨rfl, rfl⟩
  | error f => cases result

theorem of_router {r : RouterRef} {target : Router} (returns : Returns (router r) w target w') :
    w.router r = target ∧ w = w' := by
  obtain ⟨_, _, reads, ends⟩ := returns.of_bind
  obtain ⟨rfl, rfl⟩ := reads.of_get
  exact ends.of_pure

theorem of_mapM {f : α → Exec β} {P : β → Prop} (each : ∀ a w b w', Returns (f a) w b w' → P b)
    {l : List α} {bs : List β} (returns : Returns (l.mapM f) w bs w') : ∀ b ∈ bs, P b := by
  have onto : ∀ acc w, (∀ b ∈ acc, P b) → Returns (List.mapM.loop f l acc) w bs w' →
      ∀ b ∈ bs, P b := by
    clear returns
    induction l with
    | nil =>
      intro acc w all returns
      obtain ⟨rfl, -⟩ := returns.of_pure
      simpa using all
    | cons a l ih =>
      intro acc w all returns
      obtain ⟨b, v, first, later⟩ := returns.of_bind
      exact ih (b :: acc) v (List.forall_mem_cons.2 ⟨each a w b v first, all⟩) later
  exact onto [] w nofun returns

/-- A step that may keep its changes although it fails has succeeded. -/
theorem of_settle {step : World → Except Failure α × World}
    (returns : Returns (settle step) w a w') : step w = (.ok a, w') := by
  obtain ⟨result, rfl⟩ := returns
  rcases answer : step w with ⟨f | b, v⟩
  · simp [settle, bind_apply, lift, answer] at result
  · simp [settle, bind_apply, lift, answer] at result ⊢
    exact result

end Returns

/-- The relation holds between the world before an execution, its course and the world after it,
wherever the execution starts and however it ends. -/
def Respects {α : Type} (R : World → Course → World → Prop) (x : Exec α) : Prop :=
  ∀ w, R w (x w).course (x w).world

namespace Respects

variable {R : World → Course → World → Prop} {α β : Type}

theorem pure (hR : Composes R) (a : α) : Respects R (Pure.pure a : Exec α) :=
  fun w => hR.done w

theorem stop (hR : Composes R) (s : Stop) : Respects R (Exec.stop s : Exec α) :=
  fun w => hR.done w

theorem fail (hR : Composes R) (f : Failure) : Respects R (Exec.fail f : Exec α) :=
  stop hR _

theorem lift (hR : Composes R) (r : Except Failure α) : Respects R (Exec.lift r) := by
  cases r with
  | ok a => exact pure hR a
  | error f => exact fail hR f

theorem get (hR : Composes R) : Respects R (MonadState.get : Exec World) :=
  fun w => hR.done w

theorem context (hR : Composes R) (c : ContextRef) : Respects R (Exec.context c) :=
  fun w => hR.done w

theorem router (hR : Composes R) (r : RouterRef) : Respects R (Exec.router r) :=
  fun w => hR.done w

theorem modify {f : World → World} (h : ∀ w, R w .done (f w)) :
    Respects R (modify f : Exec Unit) :=
  h

theorem bind (hR : Composes R) {x : Exec α} {f : α → Exec β} (hx : Respects R x)
    (hf : ∀ a, Respects R (f a)) : Respects R (x >>= f) := by
  intro w
  have h := hx w
  rw [bind_apply]
  rcases hw : x w with ⟨course, stop | a, w'⟩
  · rw [hw] at h
    exact h
  · rw [hw] at h
    exact hR.append h (hf a w')

theorem map (hR : Composes R) {x : Exec α} (f : α → β) (hx : Respects R x) :
    Respects R (f <$> x) :=
  bind hR hx fun a => pure hR (f a)

theorem ite {p : Prop} [Decidable p] {x y : Exec α} (hx : Respects R x) (hy : Respects R y) :
    Respects R (if p then x else y) := by
  split
  · exact hx
  · exact hy

theorem attempt {x : Exec α} (hx : Respects R x) : Respects R (attempt x) := by
  intro w
  rw [attempt_course, attempt_world]
  exact hx w

theorem outcome {x : Exec α} (hx : Respects R x) : Respects R (outcome x) := by
  intro w
  have h := hx w
  unfold Exec.outcome
  rcases hw : x w with ⟨course, (f | name | _) | a, w'⟩
  all_goals
    rw [hw] at h
    exact h

theorem named (hR : Composes R) (table : Assoc α) (name : String) :
    Respects R (named table name) := by
  unfold Exec.named
  split
  · exact pure hR _
  · exact stop hR _

theorem forM (hR : Composes R) {f : α → Exec Unit} (hf : ∀ a, Respects R (f a)) (l : List α) :
    Respects R (l.forM f) := by
  induction l with
  | nil => exact pure hR ()
  | cons a l ih => exact bind hR (hf a) fun _ => ih

theorem mapM (hR : Composes R) {f : α → Exec β} (hf : ∀ a, Respects R (f a)) (l : List α) :
    Respects R (l.mapM f) := by
  have onto : ∀ acc, Respects R (List.mapM.loop f l acc) := by
    induction l with
    | nil => exact fun acc => pure hR acc.reverse
    | cons a l ih => exact fun acc => bind hR (hf a) fun b => ih (b :: acc)
  exact onto []

theorem finishing (hR : Composes R) {x : Exec α} {restore : Option α → World → World}
    (hx : Respects R x) (h : ∀ o w, R w .done (restore o w)) :
    Respects R (finishing x restore) := by
  intro w
  rw [finishing_apply]
  have hw := hR.append (hx w) (h (x w).result.toOption (x w).world)
  rwa [Course.append_done] at hw

theorem settle {step : World → Except Failure α × World} (h : ∀ w, R w .done (step w).2) :
    Respects R (settle step) := by
  intro w
  cases hs : (step w).1 <;>
    simpa [Exec.settle, bind_apply, Exec.lift, hs] using h w

end Respects
end Exec
end HandlerChains
