import HandlerChains.Proofs.Plugin.Enabling
import HandlerChains.Proofs.Text.Fields

/-!
# Several targets at once

A plugin whose class declares options takes several targets between commas. Whether it accepts the
options, and what they come to, does not depend on the target, so that configuring it for all
targets at once is configuring it for one after another. A plugin that declares no options takes
the whole text for a single target.
-/

namespace HandlerChains
namespace Plugin

def aimed (given : Assoc Value) (target : String) : Assoc Value :=
  Assoc.put given "_target" (.text target)

/-- The arguments of a configuring call that are no options of the plugin. -/
def ownArguments : List String := ["flags", "_target", Options.selfName]

/-- What a plugin reads from options, if it accepts them. -/
def reads (rules : Options.Rules) (given : Assoc Value) : Except Failure (Assoc Value) := do
  if Assoc.has given Options.selfName then
    .error (.badCall "multiple values for argument 'self'")
  else
    let own ← expandFlags given
    checkOptions rules own
    return own

variable {p : Plugin} {rules : Options.Rules} {store : PluginStore} {given : Assoc Value}
variable {target : String}

theorem reads_eq_ok {own : Assoc Value} (accepted : reads rules given = .ok own) :
    (Assoc.has given Options.selfName = false ∧ expandFlags given = .ok own) ∧
      checkOptions rules own = .ok () := by
  unfold reads at accepted
  split at accepted
  · cases accepted
  · next self =>
    cases expanded : expandFlags given with
    | error f =>
      rw [expanded] at accepted
      cases accepted
    | ok read =>
      cases checked : checkOptions rules read with
      | error f => simp [expanded, checked, bind, Except.bind] at accepted
      | ok _ =>
        have same : own = read := by
          simpa [expanded, checked, bind, Except.bind, pure, Except.pure] using accepted.symm
        subst same
        exact ⟨⟨Bool.eq_false_of_not_eq_true self, rfl⟩, checked⟩

theorem write_text (store : PluginStore) (target : String) (own : Assoc Value) :
    p.write store (.text target) own = .ok (store.writeConfig p.name (.text target) own) := by
  unfold write PluginStore.writeConfig
  split <;> rfl

theorem erase_aimed (untargeted : Assoc.get? given "_target" = none) (target : String) :
    Assoc.erase (aimed given target) "_target" = given := by
  rw [aimed, Assoc.erase_put_self, Assoc.erase_eq_self untargeted]

theorem target_aimed (given : Assoc Value) (target : String) :
    Assoc.get? (aimed given target) "_target" = some (.text target) :=
  Assoc.get?_put_self ..

/-- Configuring for a text: for what is between commas, or else for all of it. -/
theorem configure_aimed (declared : p.pluginClass.options = some rules)
    (untargeted : Assoc.get? given "_target" = none) (store : PluginStore) (target : String) :
    p.configure store (aimed given target) =
      if Assoc.has given Options.selfName then
        .error (.badCall "multiple values for argument 'self'")
      else (do
        let own ← expandFlags given
        if ',' ∈ target.toList then (targetsIn target).foldlM (p.configureListed rules own) store
        else p.configureTarget rules store (.text target) own) := by
  unfold configure
  rw [erase_aimed untargeted, target_aimed, declared]
  dsimp only [Option.getD_some, hasComma]
  congr 1
  refine bind_congr fun own => ?_
  by_cases comma : ',' ∈ target.toList <;> simp [comma, bind, Except.bind]

theorem configureTarget_text (store : PluginStore) (target : String) (own : Assoc Value) :
    p.configureTarget rules store (.text target) own = (do
      checkOptions rules own
      return store.writeConfig p.name (.text target) own) := by
  unfold configureTarget
  simp only [write_text]
  rfl

theorem configure_single (declared : p.pluginClass.options = some rules)
    (untargeted : Assoc.get? given "_target" = none) (single : ',' ∉ target.toList) :
    p.configure store (aimed given target) = (do
      let own ← reads rules given
      return store.writeConfig p.name (.text target) own) := by
  rw [configure_aimed declared untargeted, reads]
  cases Assoc.has given Options.selfName with
  | true => rfl
  | false =>
    cases expandFlags given with
    | error f => rfl
    | ok own =>
      change (if ',' ∈ target.toList then _ else _) = _
      rw [if_neg single, configureTarget_text]
      cases checked : checkOptions rules own <;>
        simp [checked, bind, Except.bind, pure, Except.pure]

theorem configureListed_text {own : Assoc Value}
    (plain : ∀ name ∈ ownArguments, Assoc.get? own name = none) (store : PluginStore)
    (target : String) :
    p.configureListed rules own store target = (do
      checkOptions rules own
      return store.writeConfig p.name (.text target) own) := by
  have absent : ∀ name ∈ ownArguments, ¬ Assoc.has own name = true := by
    intro name mem
    rw [Assoc.has, plain name mem]
    exact Bool.false_ne_true
  have expanded : expandFlags own = .ok own := by
    rw [expandFlags, plain "flags" (by decide)]
  unfold configureListed
  rw [if_neg (not_or.2 ⟨absent _ (by decide), absent _ (by decide)⟩), expanded]
  exact configureTarget_text store target own

/-- Names that can stand between commas: none of them is empty, has a comma, or has blanks at its
ends. -/
def Listable (ts : List String) : Prop := ∀ t ∈ ts, t ≠ "" ∧ ',' ∉ t.toList ∧ Text.strip t = t

theorem targetsIn_intercalate {ts : List String} (some : ts ≠ []) (names : Listable ts) :
    targetsIn (",".intercalate ts) = ts := by
  rw [targetsIn, show "," = String.singleton ',' from rfl,
    Text.fields_intercalate some fun t mem => (names t mem).2.1,
    List.map_congr_left fun t mem => (names t mem).2.2, List.map_id']
  exact List.filter_eq_self.2 fun t mem => decide_eq_true (names t mem).1

theorem comma_mem_intercalate (t u : String) (ts : List String) :
    ',' ∈ (",".intercalate (t :: u :: ts)).toList := by
  rw [show "," = String.singleton ',' from rfl, Text.toList_intercalate_singleton]
  exact List.mem_append_right _ List.mem_cons_self

/-- Options that are accepted have none of the names of arguments, which a plugin cannot declare. -/
theorem get?_ownArguments_of_reads
    (undeclared : ∀ name ∈ ownArguments, Assoc.get? rules name = none)
    {own : Assoc Value} (accepted : reads rules given = .ok own) :
    ∀ name ∈ ownArguments, Assoc.get? own name = none := by
  obtain ⟨-, checked⟩ := reads_eq_ok accepted
  intro name mem
  rw [Option.eq_none_iff_forall_ne_some]
  intro v has
  have fine := Options.problem?_eq_none_of_check checked has
  unfold Options.Rules.problem? at fine
  rw [undeclared name mem] at fine
  split at fine <;> cases fine

theorem foldlM_configureListed {own : Assoc Value} {ts : List String} (some : ts ≠ [])
    (plain : ∀ name ∈ ownArguments, Assoc.get? own name = none) (store : PluginStore) :
    ts.foldlM (p.configureListed rules own) store = (do
      checkOptions rules own
      return store.writeEach (ts.map fun t => ⟨p.name, .text t, own⟩)) := by
  cases checked : checkOptions rules own with
  | error f =>
    obtain ⟨t, ts, rfl⟩ := List.exists_cons_of_ne_nil some
    rw [List.foldlM_cons, configureListed_text plain, checked]
    rfl
  | ok _ =>
    clear some
    induction ts generalizing store with
    | nil => rfl
    | cons t ts ih =>
      rw [List.foldlM_cons, configureListed_text plain, checked]
      exact ih _

/-- Several targets have accepted options written for each of them. -/
theorem configure_several (declared : p.pluginClass.options = some rules)
    (undeclared : ∀ name ∈ ownArguments, Assoc.get? rules name = none)
    (untargeted : Assoc.get? given "_target" = none) {own : Assoc Value}
    (accepted : reads rules given = .ok own) {ts : List String} (several : 2 ≤ ts.length)
    (names : Listable ts) :
    p.configure store (aimed given (",".intercalate ts)) =
      .ok (store.writeEach (ts.map fun t => ⟨p.name, .text t, own⟩)) := by
  obtain ⟨t, u, rest, rfl⟩ : ∃ t u rest, ts = t :: u :: rest := by
    match ts, several with
    | t :: u :: rest, _ => exact ⟨t, u, rest, rfl⟩
  obtain ⟨⟨self, expanded⟩, checked⟩ := reads_eq_ok accepted
  rw [configure_aimed declared untargeted, self, if_neg Bool.false_ne_true, expanded]
  change (if _ then _ else _) = _
  rw [if_pos (comma_mem_intercalate t u rest), targetsIn_intercalate (List.cons_ne_nil _ _) names,
    foldlM_configureListed (List.cons_ne_nil _ _) (get?_ownArguments_of_reads undeclared accepted),
    checked]
  rfl

/-- A plugin that declares no options accepts flags only, and takes any text for one target. -/
theorem configure_undeclared (none : p.pluginClass.options = none)
    (untargeted : Assoc.get? given "_target" = .none) (store : PluginStore) (target : String) :
    p.configure store (aimed given target) =
      if Assoc.has given Options.selfName then
        .error (.badCall "multiple values for argument 'self'")
      else if (Assoc.erase given "flags").isEmpty then do
        let own ← flagsOf ((Assoc.get? given "flags").getD .null)
        return store.writeConfig p.name (.text target) own
      else .error (.badCall "unexpected keyword argument") := by
  unfold configure
  rw [erase_aimed untargeted, target_aimed, none]
  simp only [Option.getD_some, write_text]
  rfl

end Plugin

theorem World.setRouter_setRouter (w : World) (r : RouterRef) (a b : Router) :
    (w.setRouter r a).setRouter r b = w.setRouter r b := by
  simp [World.setRouter]

namespace Exec

variable {w : World} {r : RouterRef} {plugin : String} {p : Plugin} {rules : Options.Rules}
variable {given own : Assoc Value}

theorem configurePlugin_of_found (found : (w.router r).pluginAttribute plugin = .ok p)
    (config : Assoc Value) :
    configurePlugin r (.text plugin) config w =
      match p.configure (w.router r).store config with
      | .error f => ⟨.done, .error (.failed f), w⟩
      | .ok store => ⟨.done, .ok (), w.setRouter r { w.router r with store }⟩ := by
  unfold configurePlugin
  rw [pluginAttribute_changeStore, found]
  rfl

theorem configurePlugin_single (found : (w.router r).pluginAttribute plugin = .ok p)
    (declared : p.pluginClass.options = some rules)
    (untargeted : Assoc.get? given "_target" = none) (t : String) (single : ',' ∉ t.toList) :
    configurePlugin r (.text plugin) (Plugin.aimed given t) w =
      match Plugin.reads rules given with
      | .error f => ⟨.done, .error (.failed f), w⟩
      | .ok own => ⟨.done, .ok (), w.setRouter r { w.router r with
          store := (w.router r).store.writeConfig p.name (.text t) own }⟩ := by
  rw [configurePlugin_of_found found, Plugin.configure_single declared untargeted single]
  cases Plugin.reads rules given <;> rfl

theorem forM_configurePlugin (found : (w.router r).pluginAttribute plugin = .ok p)
    (declared : p.pluginClass.options = some rules)
    (untargeted : Assoc.get? given "_target" = none) (accepted : Plugin.reads rules given = .ok own)
    (t : String) (ts : List String) (single : ∀ u ∈ t :: ts, ',' ∉ u.toList) :
    ((t :: ts).forM fun u => configurePlugin r (.text plugin) (Plugin.aimed given u)) w =
      ⟨.done, .ok (), w.setRouter r
        { w.router r with
          store := (w.router r).store.writeEach
            ((t :: ts).map fun u => ⟨p.name, .text u, own⟩) }⟩ := by
  induction ts generalizing t w with
  | nil =>
    have here := configurePlugin_single found declared untargeted t (single t List.mem_cons_self)
    rw [accepted] at here
    change (configurePlugin r (.text plugin) (Plugin.aimed given t) w).andThen _ = _
    rw [here]
    rfl
  | cons u ts ih =>
    obtain ⟨first, later⟩ := List.forall_mem_cons.1 single
    have here := configurePlugin_single found declared untargeted t first
    rw [accepted] at here
    change (configurePlugin r (.text plugin) (Plugin.aimed given t) w).andThen
      (fun _ => (u :: ts).forM _) = _
    rw [here]
    dsimp only
    rw [Ended.andThen_ok, ih _ u later]
    · rw [World.router_setRouter_self, World.setRouter_setRouter]
      rfl
    · rw [World.router_setRouter_self]
      exact found

/-- A plugin that declares options, be they accepted for one of several targets. Then all targets
can be given at once, and that leaves what giving one after another does. -/
theorem configurePlugin_several (found : (w.router r).pluginAttribute plugin = .ok p)
    (declared : p.pluginClass.options = some rules)
    (undeclared : ∀ name ∈ Plugin.ownArguments, Assoc.get? rules name = none)
    (untargeted : Assoc.get? given "_target" = none) {ts : List String} (several : 2 ≤ ts.length)
    (names : Plugin.Listable ts)
    (accepts : ∃ t ∈ ts,
      (configurePlugin r (.text plugin) (Plugin.aimed given t) w).result = .ok ()) :
    let all := configurePlugin r (.text plugin) (Plugin.aimed given (",".intercalate ts)) w
    all.result = .ok () ∧
      all = (ts.forM fun t => configurePlugin r (.text plugin) (Plugin.aimed given t)) w := by
  obtain ⟨own, accepted⟩ : ∃ own, Plugin.reads rules given = .ok own := by
    obtain ⟨t, mem, done⟩ := accepts
    rw [configurePlugin_single found declared untargeted t (names t mem).2.1] at done
    split at done
    · cases done
    · next own accepted => exact ⟨own, accepted⟩
  have all : configurePlugin r (.text plugin) (Plugin.aimed given (",".intercalate ts)) w =
      ⟨.done, .ok (), w.setRouter r { w.router r with
        store := (w.router r).store.writeEach (ts.map fun t => ⟨p.name, .text t, own⟩) }⟩ := by
    rw [configurePlugin_of_found found,
      Plugin.configure_several declared undeclared untargeted accepted several names]
  obtain ⟨t, ts, rfl⟩ : ∃ t rest, ts = t :: rest :=
    List.exists_cons_of_ne_nil (List.ne_nil_of_length_pos (by omega))
  dsimp only
  rw [all, forM_configurePlugin found declared untargeted accepted t ts
    fun u mem => (names u mem).2.1]
  exact ⟨rfl, rfl⟩

end Exec

def chattyFlags : Assoc Value := [("flags", .text "before, after:off"), ("print", .int 1)]

/-- Both handlers have all that was given after one call. -/
theorem chattyFlags_several :
    let all := Exec.configurePlugin 0 (.text "logging")
      (Plugin.aimed chattyFlags (",".intercalate ["a", "GET b"])) loggingOnly
    all.result = .ok () ∧
      (all = (["a", "GET b"].forM fun t =>
        Exec.configurePlugin 0 (.text "logging") (Plugin.aimed chattyFlags t)) loggingOnly) ∧
      ∀ t ∈ ["a", "GET b"], ((all.world.router 0).store.slot "logging" (.text t)).config =
        [("print", .int 1), ("before", .bool true), ("after", .bool false)] := by
  have found : (loggingOnly.router 0).pluginAttribute "logging" = .ok loggingPlugin := by
    rw [router_loggingOnly]
    rfl
  have untargeted : Assoc.get? chattyFlags "_target" = none := rfl
  have names : Plugin.Listable ["a", "GET b"] := by
    unfold Plugin.Listable
    decide
  have accepts : (Exec.configurePlugin 0 (.text "logging") (Plugin.aimed chattyFlags "a")
      loggingOnly).result = .ok () := by
    cbv
  have several := Exec.configurePlugin_several found rfl (by decide) untargeted (by decide) names
    ⟨"a", List.mem_cons_self, accepts⟩
  refine ⟨several.1, several.2, fun t mem => ?_⟩
  simp only [List.mem_cons, List.not_mem_nil, or_false] at mem
  obtain rfl | rfl := mem <;> cbv

def tracingOnly : World :=
  (Exec.plug 0 (.text "trace") [] none (Small.world [Small.newRouter])).world

def tracedFor (target : String) : Exec Unit :=
  Exec.configurePlugin 0 (.text "trace") (Plugin.aimed [("flags", .text "loud")] target)

/-- Given two targets at once it has flags for neither of them. -/
theorem tracingOnly_several_differ :
    let all := tracedFor (",".intercalate ["a", "b"]) tracingOnly
    let each := (["a", "b"].forM tracedFor) tracingOnly
    Plugin.Listable ["a", "b"] ∧ all.result = .ok () ∧ each.result = .ok () ∧
      (∀ t ∈ ["a", "b"], ((all.world.router 0).store.slot "trace" (.text t)).config = [] ∧
        ((each.world.router 0).store.slot "trace" (.text t)).config = [("loud", .bool true)]) ∧
      (all.world.router 0).store ≠ (each.world.router 0).store := by
  have apart : ∀ t ∈ ["a", "b"],
      (((tracedFor (",".intercalate ["a", "b"]) tracingOnly).world.router 0).store.slot "trace"
          (.text t)).config = [] ∧
        ((((["a", "b"].forM tracedFor) tracingOnly).world.router 0).store.slot "trace"
          (.text t)).config = [("loud", .bool true)] := by
    intro t mem
    simp only [List.mem_cons, List.not_mem_nil, or_false] at mem
    obtain rfl | rfl := mem <;> constructor <;> cbv
  refine ⟨by unfold Plugin.Listable; decide, by cbv, by cbv, apart, fun same => ?_⟩
  obtain ⟨none, loud⟩ := apart "a" List.mem_cons_self
  rw [same, loud] at none
  cases none

end HandlerChains
