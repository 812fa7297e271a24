import HandlerChains.Proofs.Plugin.Writes
import HandlerChains.Proofs.Router.Refusal
import HandlerChains.Router.Plug

/-!
# What fitting plugins comes to

A plugin fits an entry, or refuses it, whatever the store of the router holds. Either way it makes
the same writes in every store, all of them for itself and under the key of the entry, and it leaves
the entry its name, its handler, its chain and its layers.
-/

namespace HandlerChains

/-- A step that comes to the same for an entry whatever the store holds: a result, what is written,
and what becomes of the entry. -/
def Fitting.ComesTo {α : Type} (x : Fitting α) (e : Entry) (result : Except Failure α)
    (ws : List Write) (e' : Entry) : Prop :=
  ∀ store, x.run ⟨store, e⟩ = (result, ⟨store.writeEach ws, e'⟩)

namespace Fitting.ComesTo

variable {α β : Type} {x : Fitting α} {f : α → Fitting β} {e e' e'' : Entry} {ws vs : List Write}

theorem lift (r : Except Failure α) (e : Entry) : ComesTo (Fitting.lift r) e r [] e :=
  fun _ => run_lift r _

theorem bind {a : α} {result : Except Failure β} (hx : ComesTo x e (.ok a) ws e')
    (hf : ComesTo (f a) e' result vs e'') : ComesTo (x >>= f) e result (ws ++ vs) e'' := by
  intro store
  rw [run_bind, hx, PluginStore.writeEach_append]
  exact hf _

theorem bind_error {g : Failure} (hx : ComesTo x e (.error g) ws e') :
    ComesTo (x >>= f) e (.error g) ws e' := by
  intro store
  rw [run_bind, hx]

end Fitting.ComesTo

namespace Plugin

def listed (p : Plugin) (e : Entry) : Entry :=
  { e with plugins := if p.name ∈ e.plugins then e.plugins else e.plugins ++ [p.name] }

section

variable [Telling]

theorem notify_run (p : Plugin) (r : Router) (s : Fit) :
    (p.notify r).run s =
      match (Telling.tell p { r with store := s.store }).run s with
      | (.error f, s) => (.error f, s)
      | (.ok _, s) =>
        (.ok (), { s with entry := { s.entry with told := s.entry.told ++ [p] } }) := by
  simp only [notify, Fitting.run_bind, Fitting.run_modify, Fitting.run_get]
  rcases (Telling.tell p { r with store := s.store }).run s with ⟨f | _, s⟩ <;> rfl

theorem fit_run (p : Plugin) (r : Router) (store : PluginStore) (e : Entry) :
    (p.fit r).run ⟨store, e⟩ =
      match optionsIn (p.listed e).metadata p.name with
      | .error f => (.error f, ⟨store, p.listed e⟩)
      | .ok options =>
        match if options.isEmpty then .ok store else p.configureHandler store e.name options with
        | .error f => (.error f, ⟨store, p.listed e⟩)
        | .ok store' => (p.notify r).run ⟨store', p.listed e⟩ := by
  have lists : (if p.name ∈ e.plugins then (⟨store, e⟩ : Fit)
      else ⟨store, { e with plugins := e.plugins ++ [p.name] }⟩) = ⟨store, p.listed e⟩ := by
    unfold listed
    split <;> rfl
  have name : (p.listed e).name = e.name := rfl
  simp only [fit, Fitting.run_bind, Fitting.run_modify, Fitting.run_get, Fitting.run_lift, lists]
  cases optionsIn (p.listed e).metadata p.name with
  | error f => rfl
  | ok options =>
    dsimp only
    cases options.isEmpty with
    | true => rfl
    | false =>
      simp only [name, Bool.not_false, if_true, Bool.false_eq_true, if_false, Fitting.run_bind,
        Fitting.run_lift]
      cases p.configureHandler store e.name options <;> rfl

end

/-- An entry that a plugin was told of, with the metadata that it left. -/
def noted (p : Plugin) (metadata : Assoc Value) (e : Entry) : Entry :=
  { e with metadata, told := e.told ++ [p] }

theorem tell_run (p : Plugin) (r : Router) (s : Fit) :
    (Telling.tell p r).run s =
      match p.onRegister s.entry with
      | .error f => (.error f, s)
      | .ok metadata => (.ok (), { s with entry := { s.entry with metadata } }) := by
  simp only [Telling.tell, Fitting.run_bind, Fitting.run_get, Fitting.run_lift]
  cases p.onRegister s.entry <;> rfl

theorem notify_run_eq (p : Plugin) (r : Router) (s : Fit) :
    (p.notify r).run s =
      match p.onRegister s.entry with
      | .error f => (.error f, s)
      | .ok metadata => (.ok (), { s with entry := p.noted metadata s.entry }) := by
  rw [notify_run, tell_run]
  cases p.onRegister s.entry <;> rfl

/-- How a plugin fits an entry or refuses it. -/
structure Fits (p : Plugin) (e : Entry) (result : Except Failure Unit) (ws : List Write)
    (e' : Entry) : Prop where
  comesTo : ∀ r, (p.fit r).ComesTo e result ws e'
  places : ∀ w ∈ ws, w.plugin = p.name ∧ w.target = e.key
  revised : ∃ metadata told, e' = { p.listed e with metadata, told }
  told : result = .ok () → e'.told = e.told ++ [p]

variable {p : Plugin} {e e' : Entry} {ws : List Write}

theorem exists_fits (p : Plugin) (e : Entry) : ∃ result ws e', p.Fits e result ws e' := by
  have refused : ∀ f ws, (∀ w ∈ ws, w.plugin = p.name ∧ w.target = e.key) →
      (∀ r, (p.fit r).ComesTo e (.error f) ws (p.listed e)) →
        ∃ result ws e', p.Fits e result ws e' := by
    intro f ws places comesTo
    exact ⟨.error f, ws, p.listed e, comesTo, places, ⟨_, _, rfl⟩, fun ok => by cases ok⟩
  cases found : optionsIn (p.listed e).metadata p.name with
  | error f =>
    refine refused f [] (by simp) fun r store => ?_
    rw [fit_run, found]
    rfl
  | ok options =>
    have writes : Writes p.name (· = e.key) fun store =>
        if options.isEmpty then .ok store else p.configureHandler store e.name options :=
      .ite .ok (p.configureHandler_writes e.name options)
    obtain ⟨f, fails⟩ | ⟨ws, places, made⟩ := writes
    · refine refused f [] (by simp) fun r store => ?_
      rw [fit_run, found]
      simp only [fails]
      rfl
    · cases accepted : p.onRegister (p.listed e) with
      | ok metadata =>
        refine ⟨.ok (), ws, p.noted metadata (p.listed e), fun r store => ?_, places,
          ⟨metadata, _, rfl⟩, fun _ => rfl⟩
        rw [fit_run, found]
        simp only [made, notify_run_eq, accepted]
      | error f =>
        refine refused f ws places fun r store => ?_
        rw [fit_run, found]
        simp only [made, notify_run_eq, accepted]

/-- A plugin that fitted an entry once fits it with any store. -/
theorem fits_of_run {r : Router} {store : PluginStore} {s : Fit}
    (fitted : (p.fit r).run ⟨store, e⟩ = (.ok (), s)) :
    ∃ ws, p.Fits e (.ok ()) ws s.entry ∧ s.store = store.writeEach ws := by
  obtain ⟨result, ws, e', fits⟩ := p.exists_fits e
  have eq := (fits.comesTo r store).symm.trans fitted
  cases eq
  exact ⟨ws, fits, rfl⟩

namespace Fits

variable {result : Except Failure Unit}

theorem name_eq (fits : p.Fits e result ws e') : e'.name = e.name := by
  obtain ⟨metadata, told, rfl⟩ := fits.revised
  rfl

theorem key_eq (fits : p.Fits e result ws e') : e'.key = e.key := congrArg Value.key fits.name_eq

theorem handler_eq (fits : p.Fits e result ws e') : e'.handler = e.handler := by
  obtain ⟨metadata, told, rfl⟩ := fits.revised
  rfl

theorem error_eq (fits : p.Fits e result ws e') : e'.error = e.error := by
  obtain ⟨metadata, told, rfl⟩ := fits.revised
  rfl

end Fits
end Plugin
end HandlerChains
