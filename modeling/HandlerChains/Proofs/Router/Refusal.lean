import HandlerChains.Router.Add

/-!
# Refusals that are no cycles

Registering a handler can fail in many ways: its name is taken, an option is refused, a plugin has
an objection, or a class has something else in the place of a step. None of these is a refusal
because of a cycle, and none of the steps in which a plugin fits an entry touches its handler.
-/

namespace HandlerChains

namespace Failure

variable {α β : Type}

def isCycle : Failure → Bool
  | containsItself | mountCycle .. => true
  | _ => false

theorem kind_of_isCycle {f : Failure} (h : f.isCycle = true) : f.kind = .badValue := by
  cases f <;> first | rfl | cases h

/-- What does not fail because of a cycle. -/
def NoCycle (x : Except Failure α) : Prop := ∀ f, x = .error f → f.isCycle = false

namespace NoCycle

theorem ok (a : α) : NoCycle (.ok a) := by
  intro f h
  cases h

theorem error {f : Failure} (h : f.isCycle = false) : NoCycle (.error f : Except Failure α) := by
  intro g hg
  cases hg
  exact h

theorem bind {x : Except Failure α} {f : α → Except Failure β} (hx : NoCycle x)
    (hf : ∀ a, NoCycle (f a)) : NoCycle (x >>= f) := by
  cases x with
  | ok a => exact hf a
  | error g => exact error (hx g rfl)

theorem ite {p : Prop} [Decidable p] {x y : Except Failure α} (hx : NoCycle x) (hy : NoCycle y) :
    NoCycle (if p then x else y) := by
  split
  · exact hx
  · exact hy

end NoCycle

theorem keyOf_noCycle (v : Value) : NoCycle (keyOf v) := by
  unfold keyOf
  split
  · exact .ok _
  · exact .error rfl

theorem isCycle_notCountable (v : Value) : (notCountable v).isCycle = false := by
  cases v <;> rfl

end Failure

open Failure

theorem Override.isCycle_misuse (o : Override) (call : Call) : (o.misuse call).isCycle = false := by
  cases o <;> cases call <;> rfl

theorem Overrides.expect_noCycle (t : Overrides) (name : String) (call : Call) :
    NoCycle (t.expect name call) := by
  unfold expect
  split
  · exact .error (Override.isCycle_misuse _ _)
  · exact .ok ()

namespace Router

theorem isCycle_missing (r : Router) (name : String) : (r.missing name).isCycle = false := by
  unfold missing
  split
  · exact Overrides.expect_noCycle _ _ _ _ ‹_›
  · rfl
  · split <;> rfl

theorem isCycle_misuse (r : Router) (name : String) (call : Call) (o : Override) :
    (r.misuse name call o).isCycle = false := by
  unfold misuse
  split
  · exact r.isCycle_missing name
  · exact Override.isCycle_misuse _ call

theorem expect_noCycle (r : Router) (name : String) (call : Call) :
    NoCycle (r.expect name call) := by
  unfold expect
  split
  · exact .error (r.isCycle_misuse _ _ _)
  · exact .ok ()

theorem reach_noCycle (r : Router) (name : String) : NoCycle (r.reach name) := by
  unfold reach
  split
  · exact .error (r.isCycle_missing _)
  · exact .ok ()

theorem defaultName_noCycle (r : Router) : NoCycle r.defaultName := by
  have kind : NoCycle r.kind := by
    unfold kind
    split
    · exact .ok _
    · exact .error rfl
    · exact .error (r.isCycle_misuse _ _ _)
    · exact .ok _
  unfold defaultName
  refine .ite (.ok _) ?_
  split
  · exact .ok _
  · exact kind

theorem entryName_noCycle (r : Router) (given : Value) {derived : Except Failure Value}
    (hd : NoCycle derived) : NoCycle (r.entryName given derived) := by
  refine .ite (.bind (keyOf_noCycle _) fun key => .ite (.error rfl) (.ok _)) ?_
  exact .bind hd fun base => .bind (keyOf_noCycle _) fun _ => .ok _

theorem newEntry_noCycle (r : Router) (codes : List String) (h : Handler) (error : Bool)
    (name : Value) {derived : Except Failure Value} (hd : NoCycle derived) (options : Assoc Value) :
    NoCycle (r.newEntry codes h error name derived options) :=
  .bind (r.expect_noCycle _ _) fun _ => .bind (r.entryName_noCycle name hd) fun _ => .ok _

theorem expectLayers_noCycle (r : Router) {found : Except Failure Unit} (hf : NoCycle found) :
    NoCycle (r.expectLayers found) :=
  .bind (r.reach_noCycle _) fun _ => .bind hf fun _ => .bind (r.expect_noCycle _ _) fun _ =>
    .ite (.ok ()) (r.expect_noCycle _ _)

end Router

namespace Handler

variable (routers : RouterRef → Router)

theorem defaultName_noCycle (h : Handler) : NoCycle (h.defaultName routers) := by
  cases h with
  | router r =>
    exact .bind ((routers r).expect_noCycle _ _) fun _ => (routers r).defaultName_noCycle
  | _ => exact .ok _

theorem reach_noCycle (h : Handler) : NoCycle (h.reach routers) := by
  cases h with
  | router r => exact (routers r).reach_noCycle _
  | _ => exact .ok _

end Handler

/-! ## Fitting plugins -/

/-- A step that leaves the handler and the chain of the entry that is being fitted as they are, and
that does not fail because of a cycle. -/
def Fitting.Keeps {α : Type} (h : Handler) (error : Bool) (x : Fitting α) : Prop :=
  ∀ s : Fit, s.entry.handler = h → s.entry.error = error →
    (x.run s).2.entry.handler = h ∧ (x.run s).2.entry.error = error ∧ NoCycle (x.run s).1

namespace Fitting.Keeps

variable {α β : Type} {h : Handler} {error : Bool}

theorem pure (a : α) : Keeps h error (Pure.pure a : Fitting α) :=
  fun _ hh he => ⟨hh, he, .ok a⟩

theorem lift {x : Except Failure α} (hx : NoCycle x) : Keeps h error (Fitting.lift x) := by
  cases x with
  | ok a => exact pure a
  | error f => exact fun _ hh he => ⟨hh, he, hx⟩

theorem bind {x : Fitting α} {f : α → Fitting β} (hx : Keeps h error x)
    (hf : ∀ a, Keeps h error (f a)) : Keeps h error (x >>= f) := by
  intro s hh he
  obtain ⟨handler, chain, noCycle⟩ := hx s hh he
  rw [run_bind]
  rcases hs : x.run s with ⟨g | a, s'⟩
  · rw [hs] at handler chain noCycle
    exact ⟨handler, chain, .error (noCycle g rfl)⟩
  · rw [hs] at handler chain
    exact hf a s' handler chain

theorem bind_get {f : Fit → Fitting β}
    (hf : ∀ s, s.entry.handler = h → s.entry.error = error → Keeps h error (f s)) :
    Keeps h error (get >>= f) :=
  fun s hh he => hf s hh he s hh he

theorem modify {f : Fit → Fit} (hf : ∀ s, s.entry.handler = h → s.entry.error = error →
    (f s).entry.handler = h ∧ (f s).entry.error = error) :
    Keeps h error (modify f : Fitting Unit) :=
  fun s hh he => ⟨(hf s hh he).1, (hf s hh he).2, .ok ()⟩

theorem ite {p : Prop} [Decidable p] {x y : Fitting α} (hx : Keeps h error x)
    (hy : Keeps h error y) : Keeps h error (if p then x else y) := by
  split
  · exact hx
  · exact hy

theorem forM {x : α → Fitting Unit} (hx : ∀ a, Keeps h error (x a)) (l : List α) :
    Keeps h error (l.forM x) := by
  induction l with
  | nil => exact pure ()
  | cons a l ih => exact bind (hx a) fun _ => ih

end Fitting.Keeps

namespace Plugin

variable (p : Plugin)

theorem optionsIn_noCycle (metadata : Assoc Value) (plugin : String) :
    NoCycle (optionsIn metadata plugin) := by
  unfold optionsIn
  split
  · exact .ok _
  · split
    · exact .ok _
    · exact .ok _
    · exact .ite (.error rfl) (.ok _)
  · exact .error rfl

theorem flagsOf_noCycle (v : Value) : NoCycle (flagsOf v) := by
  unfold flagsOf
  split
  · exact .ok _
  · exact .ite (.error rfl) (.ok _)

theorem expandFlags_noCycle (options : Assoc Value) : NoCycle (expandFlags options) := by
  unfold expandFlags
  split
  · exact .ok _
  · exact .bind (flagsOf_noCycle _) fun _ => .ok _

theorem write_noCycle (store : PluginStore) (target : Value) (options : Assoc Value) :
    NoCycle (p.write store target options) :=
  .ite (.ok _) (.bind (keyOf_noCycle _) fun _ => .ok _)

theorem configureHandler_noCycle (store : PluginStore) (handler : Value) (options : Assoc Value) :
    NoCycle (p.configureHandler store handler options) := by
  have checked : ∀ rules options, NoCycle (checkOptions rules options) :=
    fun rules options => .ite (.ok ()) (.error rfl)
  refine .ite (.error rfl) ?_
  split
  · exact .bind (expandFlags_noCycle _) fun _ => .bind (checked _ _) fun _ => p.write_noCycle _ _ _
  · exact .ite (.bind (flagsOf_noCycle _) fun _ => p.write_noCycle _ _ _) (.error rfl)

theorem onRegister_noCycle (e : Entry) : NoCycle (p.onRegister e) := by
  unfold onRegister
  dsimp only
  split
  · split
    · exact .ok _
    · exact .error (isCycle_notCountable _)
  · split
    · exact .ite (.error rfl) (.ok _)
    · exact .error rfl
  all_goals exact .ok _

theorem notify_keeps (r : Router) (h : Handler) (error : Bool) :
    Fitting.Keeps h error (p.notify r) := by
  have tell : ∀ r, Fitting.Keeps h error (Telling.tell p r) := fun r =>
    .bind_get fun s hh he => .bind (.lift (p.onRegister_noCycle s.entry)) fun _ =>
      .modify fun _ _ _ => ⟨hh, he⟩
  exact .bind_get fun _ _ _ => .bind (tell _) fun _ => .modify fun _ hh he => ⟨hh, he⟩

theorem fit_keeps (r : Router) (h : Handler) (error : Bool) :
    Fitting.Keeps h error (p.fit r) := by
  refine .bind (.modify fun s hh he => ?_) fun _ => .bind_get fun s hh he => ?_
  · split <;> exact ⟨hh, he⟩
  have tell := p.notify_keeps r h error
  refine .bind (.lift (optionsIn_noCycle _ _)) fun options => .ite ?_ tell
  refine .bind (.lift (p.configureHandler_noCycle _ _ _)) fun store => ?_
  exact .bind (.modify fun _ _ _ => ⟨hh, he⟩) fun _ => tell

end Plugin

namespace Router

variable (r : Router)

theorem fitAll_keeps {found : Except Failure Unit} (hf : NoCycle found) (h : Handler)
    (error : Bool) : Fitting.Keeps h error (r.fitAll found) := by
  have fit : ∀ p, Fitting.Keeps h error (r.fit p) := fun p =>
    .bind (.lift (r.expect_noCycle _ _)) fun _ => p.fit_keeps r h error
  refine .bind (.lift (r.expect_noCycle _ _)) fun _ => ?_
  exact .bind (.forM fit r.plugins) fun _ => .lift (r.expectLayers_noCycle hf)

end Router
end HandlerChains
