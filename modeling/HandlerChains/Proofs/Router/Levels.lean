import HandlerChains.Proofs.Dispatch.Invariant
import HandlerChains.Proofs.Router.Registration
import HandlerChains.Router.Describe

/-!
# How deep runs and descriptions go

A run and a description go from a router to those directly inside it and nowhere else. Where so many
levels of routers are inside each other, more depth than that changes nothing. What is called during
a run may do anything but put routers into each other.
-/

namespace HandlerChains

open Containment Exec

/-! ## Descriptions -/

namespace Describe

variable {routers : RouterRef → Router} {nodes nodes' : RouterRef → Except Failure Value}

theorem ofHandler_congr {h : Handler} (same : ∀ s, h.child? = some s → nodes s = nodes' s) :
    ofHandler routers nodes h = ofHandler routers nodes' h := by
  cases h with
  | mount p child => simp only [ofHandler, same child rfl]
  | router r => simp only [ofHandler, same r rfl]
  | _ => rfl

theorem ofEntry_congr {r : Router} {e : Entry}
    (same : ∀ s, e.handler.child? = some s → nodes s = nodes' s) :
    ofEntry routers nodes r e = ofEntry routers nodes' r e := by
  simp only [ofEntry, ofHandler_congr same]

theorem mapM_congr {α β : Type} {f g : α → Except Failure β} {l : List α}
    (same : ∀ a ∈ l, f a = g a) : l.mapM f = l.mapM g := by
  induction l with
  | nil => rfl
  | cons a l ih =>
    rw [List.mapM_cons, List.mapM_cons, same a (by simp), ih fun b hb => same b (by simp [hb])]

/-- A description does not change with more depth than there are levels of routers. -/
theorem nodes_eq_of_fits {n depth : Nat} {r : RouterRef}
    (fits : Fits (fun s => (routers s).children) n r) (deep : n ≤ depth) :
    Describe.nodes routers depth r = Describe.nodes routers n r := by
  induction n generalizing depth r with
  | zero => exact fits.elim
  | succ n ih =>
    obtain ⟨depth, rfl⟩ : ∃ d, depth = d + 1 := ⟨depth - 1, by omega⟩
    have entry : ∀ e ∈ (routers r).entries,
        ofEntry routers (Describe.nodes routers depth) (routers r) e =
          ofEntry routers (Describe.nodes routers n) (routers r) e := by
      intro e he
      refine ofEntry_congr fun s hs => ih (fits s ?_) (by omega)
      exact List.mem_filterMap.2 ⟨e, he, hs⟩
    have handlers := mapM_congr fun e he =>
      entry e (List.mem_append_left (routers r).errorHandlers he)
    have errorHandlers := mapM_congr fun e he =>
      entry e (List.mem_append_right (routers r).handlers he)
    simp only [Describe.nodes, handlers, errorHandlers]

end Describe

/-! ## Runs -/

/-- What is inside each router stays the same. -/
def KeepsInside (w : World) (_ : Course) (w' : World) : Prop := w'.children = w.children

theorem World.children_eq_of_store (w : World) (r : RouterRef) (s : PluginStore) :
    (w.setRouter r { w.router r with store := s }).children = w.children := by
  funext t
  simp only [World.children, World.router_setRouter]
  split
  · next same => rw [same]; rfl
  · rfl

structure Calls.KeepInside (calls : Calls) : Prop where
  act : ∀ f c, Respects KeepsInside (calls.act f c)
  ask : ∀ p c, Respects KeepsInside (calls.ask p c)

namespace Dispatch

theorem keepsInside_composes : Composes KeepsInside where
  done _ := rfl
  append h h' := h'.trans h

theorem keepsInside_steps : SideInvariant KeepsInside where
  toComposes := keepsInside_composes
  event _ _ := rfl
  line _ _ := rfl
  modules _ _ := rfl
  store w r s := w.children_eq_of_store r s

theorem keepsInside_invariant {calls : Calls} (h : calls.KeepInside) (c : ContextRef) :
    Invariant calls c KeepsInside where
  toSideInvariant := keepsInside_steps
  context _ _ _ := rfl
  run _ _ _ _ _ h := h
  entry _ _ _ _ _ _ _ h := h
  handler _ _ _ _ _ h := h
  action _ u := keepsInside_steps.take (fun f => h.act f c) u
  predicate p := h.ask p c
  override _ _ f := h.act f c
  recovery _ _ _ _ _ _ h := h

/-- Two executions that are the same where routers are inside each other in a given way, and that
leave them so. -/
def Agrees {α : Type} (inside : RouterRef → List RouterRef) (x y : Exec α) : Prop :=
  ∀ w, w.children = inside → x w = y w ∧ (x w).world.children = inside

namespace Agrees

variable {inside : RouterRef → List RouterRef} {α β : Type}

theorem refl {x : Exec α} (h : Respects KeepsInside x) : Agrees inside x x :=
  fun w hw => ⟨rfl, (h w).trans hw⟩

theorem bind {x y : Exec α} {f g : α → Exec β} (h : Agrees inside x y)
    (hf : ∀ a, Agrees inside (f a) (g a)) : Agrees inside (x >>= f) (y >>= g) := by
  intro w hw
  obtain ⟨same, kept⟩ := h w hw
  rw [bind_apply, bind_apply, ← same]
  rcases hx : x w with ⟨course, stop | a, w'⟩
  · rw [hx] at kept
    exact ⟨rfl, kept⟩
  · rw [hx] at kept
    obtain ⟨same', kept'⟩ := hf a w' kept
    exact ⟨by rw [Ended.andThen_ok, Ended.andThen_ok, same'], kept'⟩

theorem bind_router {f g : Router → Exec β} (r : RouterRef)
    (hf : ∀ target, target.children = inside r → Agrees inside (f target) (g target)) :
    Agrees inside (Exec.router r >>= f) (Exec.router r >>= g) :=
  fun w hw => hf (w.router r) (congrFun hw r) w hw

theorem map (f : α → β) {x y : Exec α} (h : Agrees inside x y) :
    Agrees inside (f <$> x) (f <$> y) :=
  bind h fun _ => refl (.pure keepsInside_composes _)

theorem ite {p : Prop} [Decidable p] {x x' y y' : Exec α} (h : Agrees inside x x')
    (h' : Agrees inside y y') : Agrees inside (if p then x else y) (if p then x' else y') := by
  split
  · exact h
  · exact h'

theorem within (s : Stage) {x y : Exec Value} (h : Agrees inside x y) :
    Agrees inside (within s x) (within s y) := by
  intro w hw
  obtain ⟨same, kept⟩ := h w hw
  exact ⟨by rw [within_apply, within_apply, same], kept⟩

theorem attempt {x y : Exec α} (h : Agrees inside x y) :
    Agrees inside (attempt x) (attempt y) := by
  intro w hw
  obtain ⟨same, kept⟩ := h w hw
  exact ⟨by simp only [Exec.attempt, same], by rwa [attempt_world]⟩

theorem finishing {x y : Exec α} {restore : Option α → World → World} (h : Agrees inside x y)
    (hr : ∀ o w, (restore o w).children = w.children) :
    Agrees inside (finishing x restore) (finishing y restore) := by
  intro w hw
  obtain ⟨same, kept⟩ := h w hw
  exact ⟨by rw [finishing_apply, finishing_apply, same], by rw [finishing_apply, hr, kept]⟩

end Agrees

section Layers

variable {calls : Calls} {c : ContextRef} {inside : RouterRef → List RouterRef}
variable {next next' : Exec Value}

theorem count_agrees (steps : StepInvariant c KeepsInside) (l : Layer)
    (h : Agrees inside next next') : Agrees inside (l.count next) (l.count next') := by
  refine .bind (.refl (steps.expectStore l _ _)) fun _ => .bind (.refl (steps.layerStore l)) ?_
  intro s
  dsimp only
  split
  · exact .refl (.fail keepsInside_composes _)
  · refine .bind (.refl (steps.expectStore l _ _)) fun _ => .bind (.refl (.modify fun w => ?_)) ?_
    · exact steps.store w _ _
    · exact fun _ => h

theorem trace_agrees (steps : StepInvariant c KeepsInside) (l : Layer)
    (h : Agrees inside next next') : Agrees inside (l.trace next) (l.trace next') := by
  have recorded : ∀ e, Agrees inside (record e) (record e) :=
    fun e => .refl (.modify fun w => steps.event w e)
  exact .bind (recorded _) fun _ => .bind h fun _ => .bind (recorded _) fun _ =>
    .refl (.pure keepsInside_composes _)

theorem gate_agrees (steps : StepInvariant c KeepsInside) (l : Layer)
    (h : Agrees inside next next') : Agrees inside (l.gate next) (l.gate next') := by
  refine .bind (.refl (steps.layerStore l)) fun s => ?_
  split
  · exact .refl (.pure keepsInside_composes _)
  · exact .refl (.pure keepsInside_composes _)
  · exact .refl (.fail keepsInside_composes _)
  · exact h

theorem log_agrees (steps : StepInvariant c KeepsInside) (l : Layer)
    (h : Agrees inside next next') : Agrees inside (l.log next) (l.log next') := by
  have reports : ∀ name settings,
      Agrees inside (l.report name settings next) (l.report name settings next') := by
    intro name settings
    refine .bind (.refl (steps.emit l _ _ _ _)) fun _ => .bind h.attempt fun result => ?_
    cases result with
    | ok v =>
      exact .bind (.refl (steps.emit l _ _ _ _)) fun _ => .refl (.pure keepsInside_composes _)
    | error f =>
      exact .bind (.refl (steps.emit l _ _ _ _)) fun _ => .refl (.fail keepsInside_composes _)
  exact .bind (.refl (.router keepsInside_composes _)) fun _ => .ite (reports _ _) h

theorem layer_agrees (steps : StepInvariant c KeepsInside) (l : Layer)
    (h : Agrees inside next next') : Agrees inside (l.call next) (l.call next') := by
  have wraps : Agrees inside (l.wrap next) (l.wrap next') := by
    unfold Layer.wrap
    split
    · exact h
    · exact h
    · exact count_agrees steps l h
    · exact trace_agrees steps l h
    · exact gate_agrees steps l h
    · exact log_agrees steps l h
  exact .bind (.refl (steps.expectStore l _ _)) fun _ => .bind (.refl (steps.layerStore l)) fun _ =>
    .ite wraps h

theorem throughLayers_agrees (steps : StepInvariant c KeepsInside) (r : RouterRef) (e : Entry)
    (h : Agrees inside next next') :
    Agrees inside (throughLayers r e next) (throughLayers r e next') := by
  unfold throughLayers
  induction e.layers with
  | nil => exact h
  | cons p layers ih => exact layer_agrees steps _ ih

end Layers

section Runs

variable {calls : Calls} {c : ContextRef} {inside : RouterRef → List RouterRef}
variable {inner inner' : RouterRef → ContextRef → Exec Value}

theorem through_agrees (steps : Invariant calls c KeepsInside) (r : RouterRef) (name : String)
    {own own' : Exec Value} (h : Agrees inside own own') :
    Agrees inside (through calls r name c own) (through calls r name c own') := by
  refine .bind (.refl (.router keepsInside_composes r)) fun target => ?_
  split
  · exact .refl (steps.override r name _)
  · exact .refl (.fail keepsInside_composes _)
  · exact h

theorem handle_agrees (steps : Invariant calls c KeepsInside) {h : Handler}
    (same : ∀ s, h.child? = some s → Agrees inside (inner s c) (inner' s c)) :
    Agrees inside (handle calls inner h c) (handle calls inner' h c) := by
  have hR := keepsInside_composes
  -- Handlers that lead nowhere do the same whatever runs the routers inside.
  have alone : ∀ a, Respects KeepsInside (handle calls (fun _ _ => stop .exhausted) a c) :=
    steps.handle fun _ => .stop hR _
  cases h with
  | mount p child =>
    refine .within _ (.bind (.refl (.context hR c)) fun before => ?_)
    refine .bind (.refl (.lift hR _)) fun route => ?_
    split
    · exact .refl (.pure hR _)
    · refine .bind (.refl (steps.changeContext fun _ => rfl)) fun _ => ?_
      exact .finishing (same child rfl) fun _ _ => rfl
  | router r => exact .within _ (through_agrees steps r _ (same r rfl))
  | _ => exact .refl (alone _)

theorem callEntry_agrees (steps : Invariant calls c KeepsInside) {r : RouterRef}
    (same : ∀ s ∈ inside r, Agrees inside (inner s c) (inner' s c)) (error : Bool) (i : Nat) :
    Agrees inside (callEntry calls inner r error c i) (callEntry calls inner' r error c i) := by
  refine .within _ (.bind_router r fun target children => ?_)
  cases found : (target.chain error)[i]? with
  | none => exact .refl (.pure keepsInside_composes _)
  | some e =>
    refine throughLayers_agrees steps.toStepInvariant r e (handle_agrees steps fun s hs => ?_)
    refine same s ?_
    rw [← children]
    refine List.mem_filterMap.2 ⟨e, ?_, hs⟩
    have mem := List.mem_of_getElem? found
    cases error with
    | true => exact List.mem_append_right _ mem
    | false => exact List.mem_append_left _ mem

theorem firstMatch_agrees {call call' : Nat → Exec Value}
    (same : ∀ i, Agrees inside (call i) (call' i)) (l : List Nat) :
    Agrees inside (firstMatch call l) (firstMatch call' l) := by
  have done : ∀ b : Bool, Agrees inside (pure b : Exec Bool) (pure b) :=
    fun b => .refl (.pure keepsInside_composes b)
  induction l with
  | nil => exact done false
  | cons i l ih => exact .bind (same i) fun _ => .ite (done true) ih

theorem firstMatchOr_agrees {call call' : Nat → Exec Value}
    (same : ∀ i, Agrees inside (call i) (call' i)) {recover recover' : Nat → Failure → Exec Bool}
    (recovers : ∀ i f, Agrees inside (recover i f) (recover' i f)) (l : List Nat) :
    Agrees inside (firstMatchOr recover call l) (firstMatchOr recover' call' l) := by
  have done : ∀ b : Bool, Agrees inside (pure b : Exec Bool) (pure b) :=
    fun b => .refl (.pure keepsInside_composes b)
  induction l with
  | nil => exact done false
  | cons i l ih =>
    refine .bind (same i).attempt fun answer => ?_
    cases answer with
    | ok v => exact .ite (done true) ih
    | error f => exact recovers i f

theorem recover_agrees (steps : Invariant calls c KeepsInside) {r : RouterRef}
    (same : ∀ s ∈ inside r, Agrees inside (inner s c) (inner' s c)) (i : Nat) (f : Failure) :
    Agrees inside (recover calls inner r c i f) (recover calls inner' r c i f) := by
  have hR := keepsInside_composes
  have tries : Agrees inside (tryErrorHandlers calls inner r c f)
      (tryErrorHandlers calls inner' r c f) :=
    .bind (.refl (.router hR r)) fun _ =>
      .within _ (.map _ (firstMatch_agrees (callEntry_agrees steps same true) _))
  have faces : Agrees inside (facing f c (tryErrorHandlers calls inner r c f))
      (facing f c (tryErrorHandlers calls inner' r c f)) :=
    .bind (.refl (.context hR c)) fun _ => .bind (.refl (.modify fun _ => rfl)) fun _ =>
      .finishing tries fun _ _ => rfl
  refine .bind (.refl (.router hR r)) fun _ => .bind (.refl (.lift hR _)) fun _ => ?_
  refine .bind (.refl (.router hR r)) fun _ => .bind (.refl (steps.debug r _)) fun _ => ?_
  refine .bind faces fun answer => .ite (.refl (.pure hR _)) ?_
  exact .refl (.bind hR (steps.debug r _) fun _ => .fail hR f)

/-- A run does not change with more depth than there are levels of routers. -/
theorem run_agrees (steps : Invariant calls c KeepsInside) {n depth : Nat} {r : RouterRef}
    (fits : Fits inside n r) (deep : n ≤ depth) :
    Agrees inside (run calls depth r c) (run calls n r c) := by
  induction n generalizing depth r with
  | zero => exact fits.elim
  | succ n ih =>
    obtain ⟨depth, rfl⟩ : ∃ d, depth = d + 1 := ⟨depth - 1, by omega⟩
    have same : ∀ s ∈ inside r, Agrees inside (run calls depth s c) (run calls n s c) :=
      fun s hs => ih (fits s hs) (by omega)
    have level : Agrees inside (runLevel calls (run calls depth) r c)
        (runLevel calls (run calls n) r c) :=
      .bind (.refl (.router keepsInside_composes r)) fun _ =>
        firstMatchOr_agrees (callEntry_agrees steps same false) (recover_agrees steps same) _
    exact .within _ (through_agrees steps r "run" (.map _ level))

end Runs

end Dispatch
end HandlerChains
