import HandlerChains.Example.Routers
import HandlerChains.Proofs.Router.Commuting
import HandlerChains.Proofs.Router.Registration
import Mathlib

/-!
# Attaching and registering in any order

Whichever of the calls that attach plugins and of those that register handlers come first, as long
as all of them succeed, the router ends up the same: a registration can be moved behind the plugins
attached after it, so every order comes down to attaching all plugins and then registering all
handlers. On the way every entry has the plugins of its router listed, told of it and around it, in
the order in which they were attached.
-/

namespace HandlerChains

structure Plugging where
  plugin : Value
  config : Assoc Value := []
  logger : Option Logger := none

structure Registering where
  handler : Handler
  error : Bool := false
  name : Value := .null
  derived : Option String := none
  options : Assoc Value := []

inductive Change where
  | plug (call : Plugging)
  | register (call : Registering)

namespace Router

/-- Whether every entry has all plugins of its router listed, told of it and around it: each of them
once, and in the order in which they were attached. -/
def Settled (r : Router) : Prop :=
  ∀ e ∈ r.entries,
    e.plugins = r.plugins.map Plugin.name ∧ e.told = r.plugins ∧ e.layers = r.plugins

variable {r r' : Router} {shared : Set Key}

section

variable [Telling]

theorem register_settled {codes : List String} {h : Handler} {error : Bool} {name : Value}
    {derived : Except Failure Value} {found : Except Failure Unit} {options : Assoc Value}
    (settled : r.Settled) (independent : Plugin.Independent shared r.plugins)
    (registered : r.register codes h error name derived found options = (.ok (), r')) :
    r'.Settled := by
  obtain ⟨-, -, e, fit, made, fitted, rfl⟩ := register_iff.1 registered
  have fitted := fittedWith_of_forM independent.tells fitted
  obtain ⟨-, name', rfl⟩ := newEntry_fresh made
  intro f hf
  rw [plugins_append]
  rcases mem_entries_append.1 hf with old | rfl
  · exact settled f old
  · exact ⟨fitted.listed independent.distinct, fitted.told, rfl⟩

theorem plug_settled {registry : Assoc PluginClass} {plugin : Value} {config : Assoc Value}
    {logger : Option Logger} (settled : r.Settled)
    (independent : Plugin.Independent shared r'.plugins)
    (plugged : r.plug registry plugin config logger = (.ok (), r')) : r'.Settled := by
  obtain ⟨p, given, opened, stored, hs, fs, -, tells, -, -, fitted, -, rfl⟩ :=
    plug_fitting independent.tells plugged
  rw [plugins_attached] at independent
  have each : ∀ f ∈ hs ++ fs, f.plugins = (r.plugins ++ [p]).map Plugin.name ∧
      f.told = r.plugins ++ [p] := by
    intro f mem
    obtain ⟨e, old, fitted⟩ :=
      Entry.FittedWith.exists_of_mem (fittedWith_of_fittingEach tells fitted) mem
    obtain ⟨listed, told, -⟩ := settled e old
    have names := independent.distinct
    rw [List.map_append, ← listed] at names ⊢
    exact ⟨fitted.listed names, by rw [fitted.told, told]⟩
  intro f hf
  rcases List.mem_append.1 hf with handler | errorHandler
  · obtain ⟨e', mem, rfl⟩ := List.mem_map.1 handler
    obtain ⟨listed, told⟩ := each e' (List.mem_append_left _ mem)
    exact ⟨listed, told, rfl⟩
  · obtain ⟨e', mem, rfl⟩ := List.mem_map.1 errorHandler
    obtain ⟨listed, told⟩ := each e' (List.mem_append_right _ mem)
    exact ⟨listed, told, rfl⟩

end

end Router

namespace World

variable {w : World} {self : RouterRef} {r r' r'' s : Router} {shared : Set Key}

/-- The plugin that a call attaches if it succeeds. -/
def pluginOf (w : World) (k : Plugging) : Option Plugin :=
  match k.plugin with
  | .text name =>
    (Assoc.get? w.pluginClasses name).map fun c => (Router.takeLogger c k.config k.logger).1
  | _ => none

theorem pluginOf_of_chosen {k : Plugging} {p : Plugin} {given : Assoc Value}
    (chosen : r.chosen w.pluginClasses k.plugin k.config k.logger = .ok (p, given)) :
    w.pluginOf k = some p := by
  unfold Router.chosen at chosen
  unfold pluginOf
  split at chosen
  · cases chosen
  · unfold Router.pluginClass at chosen
    cases named : k.plugin with
    | text name =>
      rw [named] at chosen
      dsimp only at chosen ⊢
      cases found : Assoc.get? w.pluginClasses name with
      | none =>
        rw [found] at chosen
        cases chosen
      | some c =>
        rw [found] at chosen
        dsimp only [bind, Except.bind] at chosen
        split at chosen
        · cases chosen
        · next c' made =>
          split at made
          · cases made
          · cases made
            split at chosen
            · cases chosen
            · rw [Option.map_some, Except.ok.inj chosen]
    | _ =>
      rw [named] at chosen
      cases chosen

def addedBy (w : World) : Change → List Plugin
  | .plug k => (w.pluginOf k).toList
  | .register _ => []

/-- Whether a handler closes a cycle has to do with what is in a router, and with nothing else that
the router is. -/
theorem expectNoCycle_setRouter {h : Handler} (same : s.children = r.children)
    (passes : (w.setRouter self r).expectNoCycle self h = .ok ()) :
    (w.setRouter self s).expectNoCycle self h = .ok () := by
  have inside : (w.setRouter self s).children = (w.setRouter self r).children := by
    funext t
    simp only [children, router_setRouter]
    split
    · exact same
    · rfl
  have contains : ∀ child, (w.setRouter self s).contains child self =
      (w.setRouter self r).contains child self := by
    intro child
    rw [Bool.eq_iff_iff, contains_iff, contains_iff, inside]
  unfold expectNoCycle at passes ⊢
  cases leads : h.child? with
  | none => rfl
  | some child =>
    rw [leads] at passes
    dsimp only at passes ⊢
    by_cases self_inside : child = self
    · rw [if_pos self_inside] at passes
      cases passes
    · rw [if_neg self_inside] at passes ⊢
      unfold reaches at passes ⊢
      rw [router_setRouter_of_ne w s self_inside, contains]
      rw [router_setRouter_of_ne w r self_inside] at passes
      cases own : Assoc.get? (w.router child).overrides "_reaches" with
      | none =>
        rw [own] at passes
        cases found : (w.setRouter self r).contains child self with
        | true =>
          rw [found] at passes
          cases passes
        | false => rfl
      | some o =>
        rw [own] at passes
        cases o <;> cases passes

section

variable [Telling]

/-- What one call makes of a router, which stands among the other routers of a world. -/
def change (w : World) (self : RouterRef) (r : Router) : Change → Except Failure Unit × Router
  | .plug g => r.plug w.pluginClasses g.plugin g.config g.logger
  | .register g =>
    let (result, w') :=
      (w.setRouter self r).register self g.handler g.error g.name g.derived g.options
    (result, w'.router self)

/-- What calls make of a router if all of them succeed. -/
inductive Changes (w : World) (self : RouterRef) : Router → List Change → Router → Prop
  | nil (r : Router) : Changes w self r [] r
  | cons {r r' r'' : Router} {c : Change} {cs : List Change}
      (now : w.change self r c = (.ok (), r')) (rest : Changes w self r' cs r'') :
      Changes w self r (c :: cs) r''

theorem change_register_iff {g : Registering} :
    w.change self r (.register g) = (.ok (), r') ↔
      (w.setRouter self r).expectNoCycle self g.handler = .ok () ∧
        r.register (Assoc.names w.pluginClasses) g.handler g.error g.name
          (w.derivedName g.handler g.derived) (g.handler.reach w.router) g.options =
            (.ok (), r') := by
  change (((w.setRouter self r).register self g.handler g.error g.name g.derived g.options).1,
    ((w.setRouter self r).register self g.handler g.error g.name g.derived
      g.options).2.router self) = _ ↔ _
  cases passes : (w.setRouter self r).expectNoCycle self g.handler with
  | error f =>
    have refused := (w.setRouter self r).register_of_refused self g.handler g.error g.name g.derived
      g.options passes
    simp [refused]
  | ok _ =>
    -- A handler that leads to the router itself does not get here.
    have others : ∀ inner, g.handler = .router inner →
        (w.setRouter self r).router inner = w.router inner := by
      intro inner is
      refine router_setRouter_of_ne w r fun same => ?_
      subst same
      unfold expectNoCycle at passes
      rw [is] at passes
      simp [Handler.child?] at passes
    have name : (w.setRouter self r).derivedName g.handler g.derived =
        w.derivedName g.handler g.derived := by
      unfold derivedName
      split
      · rfl
      · cases is : g.handler with
        | router inner => simp only [Handler.defaultName, others inner is]
        | _ => rfl
    have found : g.handler.reach (w.setRouter self r).router = g.handler.reach w.router := by
      cases is : g.handler with
      | router inner => simp only [Handler.reach, others inner is]
      | _ => rfl
    rw [(w.setRouter self r).register_of_passes self g.handler g.error g.name g.derived g.options
      passes, name, found, router_setRouter_self]
    have classes : (w.setRouter self r).pluginClasses = w.pluginClasses := rfl
    simp [Prod.ext_iff, classes]

theorem change_alike (alike : r.Alike s) {c : Change}
    (tells : ∀ p ∈ r'.plugins, p.TellsByEntry shared)
    (now : w.change self r c = (.ok (), r')) :
    ∃ s', w.change self s c = (.ok (), s') ∧ r'.Alike s' := by
  cases c with
  | plug g => exact Router.plug_alike tells alike now
  | register g =>
    obtain ⟨passes, registered⟩ := change_register_iff.1 now
    rw [Router.plugins_register registered] at tells
    obtain ⟨s', registered', alike'⟩ := Router.register_alike tells alike registered
    exact ⟨s', change_register_iff.2
      ⟨expectNoCycle_setRouter alike.children_eq passes, registered'⟩, alike'⟩

theorem plugins_change {c : Change} (now : w.change self r c = (.ok (), r')) :
    r'.plugins = r.plugins ++ w.addedBy c := by
  cases c with
  | plug k =>
    obtain ⟨p, given, chosen, plugins⟩ := Router.plugins_plug now
    simp [addedBy, pluginOf_of_chosen chosen, plugins]
  | register g => simp [addedBy, Router.plugins_register (change_register_iff.1 now).2]

theorem independent_of_change {c : Change} (now : w.change self r c = (.ok (), r'))
    (independent : r'.Independent shared) : r.Independent shared := by
  cases c with
  | plug k => exact independent.before_plug now
  | register g => exact independent.before_register (change_register_iff.1 now).2

namespace Changes

variable {cs ds : List Change}

theorem unique (first : w.Changes self r cs r') (second : w.Changes self r cs r'') : r' = r'' := by
  induction first with
  | nil r =>
    cases second
    rfl
  | cons now rest ih =>
    cases second with
    | cons now' rest' =>
      have both := now.symm.trans now'
      cases both
      exact ih rest'

theorem append (first : w.Changes self r cs r') (second : w.Changes self r' ds r'') :
    w.Changes self r (cs ++ ds) r'' := by
  induction first with
  | nil r => exact second
  | cons now rest ih => exact cons now (ih second)

theorem of_append (all : w.Changes self r (cs ++ ds) r'') :
    ∃ r', w.Changes self r cs r' ∧ w.Changes self r' ds r'' := by
  induction cs generalizing r with
  | nil => exact ⟨r, nil r, all⟩
  | cons c cs ih =>
    cases all with
    | cons now rest =>
      obtain ⟨r', first, second⟩ := ih rest
      exact ⟨r', cons now first, second⟩

theorem plugins_eq (all : w.Changes self r cs r') :
    r'.plugins = r.plugins ++ cs.flatMap w.addedBy := by
  induction all with
  | nil r => simp
  | cons now rest ih =>
    rw [ih, plugins_change now, List.append_assoc, List.flatMap_cons]

theorem independent_before (all : w.Changes self r cs r') (independent : r'.Independent shared) :
    r.Independent shared := by
  induction all with
  | nil r => exact independent
  | cons now rest ih => exact independent_of_change now (ih independent)

theorem alike (alike : r.Alike s) (independent : r'.Independent shared)
    (all : w.Changes self r cs r') : ∃ s', w.Changes self s cs s' ∧ r'.Alike s' := by
  induction all generalizing s with
  | nil r => exact ⟨s, nil s, alike⟩
  | cons now rest ih =>
    obtain ⟨t, now', alike'⟩ :=
      change_alike alike (rest.independent_before independent).plugins.tells now
    obtain ⟨s', rest', alike''⟩ := ih alike' independent
    exact ⟨s', cons now' rest', alike''⟩

end Changes

theorem Changes.settled {cs : List Change} (all : w.Changes self r cs r')
    (independent : r'.Independent shared) (settled : r.Settled) : r'.Settled := by
  induction all with
  | nil r => exact settled
  | @cons r t r'' c cs now rest ih =>
    have before := rest.independent_before independent
    refine ih independent ?_
    cases c with
    | plug k => exact Router.plug_settled settled before.plugins now
    | register g =>
      obtain ⟨-, registered⟩ := change_register_iff.1 now
      exact Router.register_settled settled (before.before_register registered).plugins registered

def changeEach (w : World) (self : RouterRef) : Router → List Change → Except Failure Unit × Router
  | r, [] => (.ok (), r)
  | r, c :: cs =>
    match w.change self r c with
    | (.ok (), r') => changeEach w self r' cs
    | (.error f, r') => (.error f, r')

end

/-- Plugins that number the entries that they are told of, over their router. -/
@[reducible]
def numbering : Telling where
  tell _ r := modify fun s =>
    { s with entry := { s.entry with
        metadata := Assoc.put s.entry.metadata "number" (.int r.entries.length) } }

def numbers (r : Router) : List (Option Value) :=
  r.entries.map fun e => Assoc.get? e.metadata "number"

/-- Plugins that go by more than the entry can tell one order from another. -/
theorem numbering_tells_orders_apart :
    let change := @changeEach numbering (Small.world []) 0 Small.newRouter
    let plug : Change := .plug { plugin := .text "outer" }
    let register : Change := .register { handler := .callback (Small.action []) }
    (change [plug, register]).1 = .ok () ∧ (change [register, plug]).1 = .ok () ∧
      numbers (change [plug, register]).2 = [some (.int 0)] ∧
      numbers (change [register, plug]).2 = [some (.int 1)] := by
  intro change plug register
  refine ⟨?_, ?_, ?_, ?_⟩ <;> with_unfolding_all rfl

end World
end HandlerChains
