import HandlerChains.Proofs.Dispatch.Unlogged
import HandlerChains.Proofs.Plugin.Tuning

/-!
# Reports on calls

Whether a plugin that logs is on is decided twice. The router asks its store, where what was set
while running comes before what was configured, for the handler and then for all handlers. Behind
that the plugin asks its configuration, where nothing is that was set while running. A call is
reported on if both say yes. They say the same unless something was switched on that is configured
to be off.
-/

namespace HandlerChains

/-! ## The entries that runs call -/

def Stage.isEntry : Stage → Bool
  | entry .. => true
  | _ => false

namespace Course

/-- The calls of entries in a course, each with what happened inside it. What happened inside the
calls of actions does not belong to the run. -/
def entered : Course → List (Passage × Course)
  | done => []
  | step p inside rest =>
    let deeper := if p.stage.isCall then [] else inside.entered
    (if p.stage.isEntry then (p, inside) :: deeper else deeper) ++ rest.entered

@[simp] theorem entered_append (s t : Course) : (s ++ t).entered = s.entered ++ t.entered := by
  induction s with
  | done => rfl
  | step p inside rest _ ih => simp [entered, ih]

end Course

namespace Dispatch

open Exec

section

variable {calls : Calls} {c : ContextRef}

def IsEntryCall (calls : Calls) (c : ContextRef) (p : Passage) (inside : Course) : Prop :=
  ∃ depth r error i, callEntry calls (run calls depth) r error c i p.before =
    ⟨.step p inside .done, p.ending, p.after⟩

def EntersCalls (calls : Calls) (c : ContextRef) (_ : World) (t : Course) (_ : World) : Prop :=
  ∀ q ∈ t.entered, IsEntryCall calls c q.1 q.2

namespace EntersCalls

variable {w w' v v' : World} {t : Course}

theorem done : EntersCalls calls c w .done w' := List.forall_mem_nil _

theorem stage {p : Passage} (other : p.stage.isEntry = false) (h : EntersCalls calls c w t w') :
    EntersCalls calls c v (.step p t .done) v' := by
  unfold EntersCalls at h ⊢
  simp only [Course.entered, other, Bool.false_eq_true, if_false, List.append_nil]
  split
  · exact List.forall_mem_nil _
  · exact h

theorem call {p : Passage} (other : p.stage.isEntry = false) (called : p.stage.isCall = true) :
    EntersCalls calls c v (.step p t .done) v' := by
  simp [EntersCalls, Course.entered, other, called]

theorem entry {depth : Nat} {r : RouterRef} {error : Bool} {i : Nat} {e : Ended Value}
    (ended : callEntry calls (run calls depth) r error c i v = e)
    (stage : e.course = .step ⟨.entry r error i, v, e.result, e.world⟩ t .done)
    (h : EntersCalls calls c w t w') : EntersCalls calls c v e.course e.world := by
  rw [stage]
  have here : IsEntryCall calls c ⟨.entry r error i, v, e.result, e.world⟩ t :=
    ⟨depth, r, error, i, by rw [ended, ← stage]⟩
  unfold EntersCalls at h ⊢
  simp only [Course.entered, Stage.isEntry, Stage.isCall, if_true, Bool.false_eq_true, if_false,
    List.append_nil]
  exact List.forall_mem_cons.2 ⟨here, h⟩

theorem invariant : Invariant calls c (EntersCalls calls c) where
  done _ := done
  append h h' := by
    unfold EntersCalls at h h' ⊢
    rw [Course.entered_append]
    exact List.forall_mem_append.2 ⟨h, h'⟩
  event _ _ := done
  line _ _ := done
  modules _ _ := done
  store _ _ _ := done
  context _ _ _ := done
  run _ _ _ _ _ h := h.stage rfl
  entry _ _ _ _ _ _ stage h := entry rfl stage h
  handler _ _ _ _ _ h := h.stage rfl
  action _ _ _ := call rfl rfl
  predicate _ _ := call rfl rfl
  override _ _ _ _ := call rfl rfl
  recovery _ _ _ _ _ _ h := h.stage rfl

end EntersCalls

end

end Dispatch

/-! ## Layers of other plugins -/

/-- Two worlds with the same log, where a router is the same but for what it keeps for other plugins
than a given one. -/
structure World.Keeps (r : RouterRef) (plugin : String) (w v : World) : Prop where
  log : v.log = w.log
  router : ∃ store, v.router r = { w.router r with store } ∧
    ∀ target, store.slot plugin target = (w.router r).store.slot plugin target

namespace World.Keeps

variable {r : RouterRef} {plugin : String} {w v u : World}

theorem refl (w : World) : Keeps r plugin w w := ⟨rfl, (w.router r).store, rfl, fun _ => rfl⟩

theorem trans (h : Keeps r plugin w v) (h' : Keeps r plugin v u) : Keeps r plugin w u where
  log := h'.log.trans h.log
  router := by
    obtain ⟨store, eq, same⟩ := h.router
    obtain ⟨store', eq', same'⟩ := h'.router
    refine ⟨store', by rw [eq', eq], fun target => ?_⟩
    rw [same', eq, same]

theorem record (w : World) (e : Event) : Keeps r plugin w (w.record e) :=
  ⟨rfl, (w.router r).store, rfl, fun _ => rfl⟩

theorem writeData {other : String} (ne : other ≠ plugin) (w : World) (target key : Key)
    (v : Value) : Keeps r plugin w (w.setRouter r { w.router r with
      store := (w.router r).store.writeData other target key v }) where
  log := rfl
  router := by
    refine ⟨_, router_setRouter_self .., fun target' => ?_⟩
    exact PluginStore.slot_alterSlot_of_ne _ _ (.inl ne.symm)

theorem enabled_eq (h : Keeps r plugin w v) (handler : Key) :
    (v.router r).store.enabled plugin handler = (w.router r).store.enabled plugin handler := by
  obtain ⟨store, eq, same⟩ := h.router
  simp only [eq, PluginStore.enabled, same]

theorem configuration_eq (h : Keeps r plugin w v) (handler : Key) :
    (v.router r).store.configuration plugin handler =
      (w.router r).store.configuration plugin handler := by
  obtain ⟨store, eq, same⟩ := h.router
  simp only [eq, PluginStore.configuration, same]

end World.Keeps

namespace Dispatch

open Exec World

namespace Layer

theorem gate_cases (l : Layer) (w : World) :
    (∀ call, l.gate call w = call w) ∨ ∃ result, ∀ call, l.gate call w = ⟨.done, result, w⟩ := by
  obtain ⟨force, read⟩ : ∃ force, Assoc.get?
      ((w.router l.router).store.configuration l.plugin.name l.entry.key) "force" = force :=
    ⟨_, rfl⟩
  by_cases yes : force = some (.text "match")
  · exact .inr ⟨_, fun call => by simp [gate, bind_apply, read, yes]; rfl⟩
  by_cases no : force = some (.text "decline")
  · exact .inr ⟨_, fun call => by simp [gate, bind_apply, read, no]; rfl⟩
  by_cases fails : force = some (.text "raise")
  · exact .inr ⟨_, fun call => by simp [gate, bind_apply, read, fails]; rfl⟩
  -- The hypotheses take the match past its first three cases.
  · exact .inl fun call => by simp [gate, bind_apply, read]

/-- The layer of another plugin passes on what is inside it or ends in its place, and keeps the log
and what a plugin has. -/
theorem call_keeps {l : Layer} {plugin : String} (silent : l.plugin.pluginClass.hook ≠ .log)
    (other : l.plugin.name ≠ plugin) (w : World) :
    (∃ w', Passes (Keeps l.router plugin) l.call w w') ∨
      ∃ result, EndsAs (Keeps l.router plugin) result l.call w := by
  have through : ∀ {around : Exec Value → Exec Value}, (∀ call, around call w = call w) →
      ∃ w', Passes (Keeps l.router plugin) around w w' :=
    fun eq => ⟨w, (Passes.refl Keeps.refl w).congr eq⟩
  have wraps : (∃ w', Passes (Keeps l.router plugin) l.wrap w w') ∨
      ∃ result, EndsAs (Keeps l.router plugin) result l.wrap w := by
    have is : ∀ {around : Exec Value → Exec Value}, (∀ call, l.wrap call = around call) →
        l.wrap = around := funext
    cases hook : l.plugin.pluginClass.hook with
    | idle | refuse => exact .inl (through fun call => by rw [wrap, hook])
    | count =>
      rw [is fun call => by rw [wrap, hook]]
      obtain passes | ⟨s, ends⟩ := count_passes Keeps.refl l w fun _ => .writeData other w _ _ _
      · exact .inl passes
      · exact .inr ⟨_, ends⟩
    | trace =>
      rw [is fun call => by rw [wrap, hook]]
      exact .inl (trace_passes Keeps.refl Keeps.record l w)
    | gate =>
      rw [is fun call => by rw [wrap, hook]]
      obtain lets | ⟨result, ends⟩ := l.gate_cases w
      · exact .inl (through lets)
      · exact .inr ⟨result, fun call => ⟨w, .refl w, ends call⟩⟩
    | log => exact absurd hook silent
  obtain eq | eq | ⟨s, stops⟩ := l.call_cases w
  · exact wraps.imp (Exists.imp fun _ h => h.congr eq) (Exists.imp fun _ h => h.congr eq)
  · exact .inl (through eq)
  · exact .inr ⟨_, fun call => ⟨w, .refl w, stops call⟩⟩

end Layer

theorem throughLayers_keeps {r : RouterRef} {e : Entry} {plugin : String}
    (others : ∀ q ∈ e.layers, q.pluginClass.hook ≠ .log ∧ q.name ≠ plugin) (w : World) :
    (∃ w', Passes (Keeps r plugin) (throughLayers r e) w w') ∨
      e.layers ≠ [] ∧ ∃ result, EndsAs (Keeps r plugin) result (throughLayers r e) w := by
  unfold throughLayers
  generalize e.layers = layers at others
  induction layers generalizing w with
  | nil => exact .inl ⟨w, .refl Keeps.refl w⟩
  | cons q layers ih =>
    obtain ⟨silent, other⟩ := others q List.mem_cons_self
    obtain ⟨w₁, passes⟩ | ⟨result, ends⟩ :=
      Layer.call_keeps (l := ⟨r, q, e.name⟩) silent other w
    · obtain ⟨w₂, passes'⟩ | ⟨-, result, ends⟩ :=
        ih w₁ fun q' mem => others q' (List.mem_cons_of_mem q mem)
      · exact .inl ⟨w₂, passes.comp Keeps.trans passes'⟩
      · exact .inr ⟨nofun, result, passes.comp_endsAs Keeps.trans ends⟩
    · exact .inr ⟨nofun, result, ends.comp _⟩

theorem throughLayers_append {r : RouterRef} {e : Entry} {outer deeper : List Plugin} {p : Plugin}
    (layers : e.layers = outer ++ p :: deeper) (call : Exec Value) :
    throughLayers r e call = throughLayers r { e with layers := outer }
      (Layer.call ⟨r, p, e.name⟩ (throughLayers r { e with layers := deeper } call)) := by
  simp only [throughLayers, layers, List.foldr_append, List.foldr_cons]

/-! ## Outcomes -/

namespace Layer

def outcomeText : Except Stop Value → String
  | .ok v => (if v.isTruthy then " matched" else " declined") ++ elapsed
  | .error (.failed f) => " failed: " ++ f.literal ++ elapsed
  | .error _ => ""

def outcomeLine (router entry : Value) (result : Except Stop Value) (sink : Sink) : LogLine :=
  ⟨sink, logLabel router entry ++ outcomeText result⟩

theorem reported_eq {l : Layer} (usable : ∀ kind, l.plugin.logger ≠ .unusable kind) (router : Value)
    {settings : LogSettings} (after : settings.after = true) (log : settings.log = true)
    {result : Except Stop Value} (ordinary : ∀ s, result = .error s → s.isOrdinary = true) :
    ∃ sink, l.reported router settings result = [outcomeLine router l.entry result sink] := by
  have takes : ∃ sink, settings.sink? l.plugin.logger = .ok (some sink) := by
    unfold LogSettings.sink?
    rw [log]
    cases logger : l.plugin.logger with
    | unusable kind => exact absurd logger (usable kind)
    | _ => split <;> exact ⟨_, rfl⟩
  obtain ⟨sink, takes⟩ := takes
  have emitted : ∀ text, l.emitted router settings settings.after text =
      [⟨sink, logLabel router l.entry ++ text⟩] := by
    intro text
    rw [Layer.emitted, after, if_pos rfl, takes]
  refine ⟨sink, ?_⟩
  cases result with
  | ok v => exact emitted _
  | error s =>
    obtain ⟨f, rfl, fails⟩ := Stop.eq_failed (ordinary s rfl)
    simp only [reported, fails, if_true]
    exact emitted _

end Layer

open Layer

/-- A layer of a plugin that logs reports on a call if the plugin is on, and is configured to be. -/
theorem Layer.call_reports {l : Layer} {w : World} (logs : l.plugin.pluginClass.hook = .log)
    (asks : (w.router l.router).IsOwn "is_plugin_enabled")
    (bucket : (w.router l.router).IsOwn "_get_plugin_bucket") (next : Exec Value) :
    let r := w.router l.router
    let settings := LogSettings.ofConfig (r.store.configuration l.plugin.name l.entry.key)
    l.call next w =
      if r.store.enabled l.plugin.name l.entry.key = true ∧ settings.enabled = true then
        l.report r.name settings next w
      else next w := by
  intro r settings
  rw [layer_own l asks bucket]
  cases r.store.enabled l.plugin.name l.entry.key with
  | false => simp
  | true => simpa using wrap_of_log logs next w

section

variable {calls : Calls} {c : ContextRef} {r : RouterRef} {e : Entry} {w : World}
variable {outer deeper : List Plugin} {p : Plugin} {on : Bool}

/-- What the layers around an entry add to the log, where a plugin that logs is among them. What is
inside the layers further out is called, or one of them ends in its place. -/
theorem throughLayers_emits (layers : e.layers = outer ++ p :: deeper)
    (others : ∀ q ∈ outer, q.pluginClass.hook ≠ .log ∧ q.name ≠ p.name)
    (logs : p.pluginClass.hook = .log) (usable : ∀ kind, p.logger ≠ .unusable kind)
    (asked : (isEnabled r e.name (.text p.name) w).result = .ok (.value (.bool on)))
    (next : Exec Value) :
    let l : Layer := ⟨r, p, e.name⟩
    let name := (w.router r).name
    let settings := LogSettings.ofConfig ((w.router r).store.configuration p.name e.key)
    let around := throughLayers r { e with layers := outer }
    let ended := throughLayers r e next w
    (outer ≠ [] ∧ EndsAs (Keeps r p.name) ended.result around w ∧ ended.course = .done ∧
      ended.world.log = w.log) ∨
      (∃ v, Passes (Keeps r p.name) around w v) ∧ ∃ begun,
        begun.log = w.log ++ (if on = true ∧ settings.enabled = true then
          l.emitted name settings settings.before " start" else []) ∧
        let called := throughLayers r { e with layers := deeper } next begun
        ended.course = called.course ∧ ended.result = called.result ∧
          ended.world.log = called.world.log ++
            if on = true ∧ settings.enabled = true then l.reported name settings called.result
            else [] := by
  intro l name settings around ended
  obtain ⟨asks, bucket, enabled⟩ := isEnabled_eq_ok asked
  let inside := throughLayers r { e with layers := deeper } next
  have split : ended = throughLayers r { e with layers := outer } (l.call inside) w :=
    congrFun (throughLayers_append layers next) w
  obtain ⟨v, kept, passes⟩ | ⟨some, result, ends⟩ :=
    throughLayers_keeps (r := r) (e := { e with layers := outer }) others w
  · obtain ⟨after, kept', eq⟩ := passes (l.call inside)
    obtain ⟨store, router, -⟩ := kept.router
    have reports := Layer.call_reports (l := l) (w := v) logs
      (by rw [router]; exact asks) (by rw [router]; exact bucket) inside
    have same : (v.router r).name = name := by rw [router]
    dsimp only [l] at reports
    rw [kept.enabled_eq, enabled, kept.configuration_eq, same] at reports
    have log : ended.world.log = (l.call inside v).world.log := by rw [split, eq, kept'.log]
    have course : ended.course = (l.call inside v).course := by rw [split, eq]
    have result : ended.result = (l.call inside v).result := by rw [split, eq]
    refine .inr ⟨⟨v, kept, passes⟩, ?_⟩
    by_cases wanted : on = true ∧ settings.enabled = true
    · have ran := (reports.trans (if_pos wanted)).trans (report_eq usable ..)
      rw [ran] at log course result
      refine ⟨_, ?_, course, result, ?_⟩
      · rw [if_pos wanted]
        exact congrArg (· ++ _) kept.log
      · rw [if_pos wanted]
        exact log
    · have ran := reports.trans (if_neg wanted)
      rw [ran] at log course result
      refine ⟨v, ?_, course, result, ?_⟩
      · rw [if_neg wanted, kept.log, List.append_nil]
      · rw [if_neg wanted, List.append_nil]
        exact log
  · obtain ⟨after, kept, eq⟩ := ends (l.call inside)
    have ended_eq : ended = ⟨.done, result, after⟩ := split.trans eq
    rw [ended_eq]
    exact .inl ⟨some, ends, rfl, kept.log⟩

theorem throughLayers_reports (layers : e.layers = outer ++ p :: deeper)
    (others : ∀ q ∈ outer, q.pluginClass.hook ≠ .log ∧ q.name ≠ p.name)
    (logs : p.pluginClass.hook = .log) (usable : ∀ kind, p.logger ≠ .unusable kind)
    (asked : (isEnabled r e.name (.text p.name) w).result = .ok (.value (.bool on)))
    (next : Exec Value) :
    let settings := LogSettings.ofConfig ((w.router r).store.configuration p.name e.key)
    let ended := throughLayers r e next w
    (outer ≠ [] ∧ ended.course = .done ∧ ended.world.log = w.log) ∨
      ∃ begun lines, begun.log = w.log ++ lines ∧
        let called := throughLayers r { e with layers := deeper } next begun
        ended.course = called.course ∧ ended.result = called.result ∧
          ended.world.log = called.world.log ++
            if on = true ∧ settings.enabled = true then
              reported ⟨r, p, e.name⟩ (w.router r).name settings called.result
            else [] := by
  obtain ⟨some, -, course, log⟩ | ⟨-, begun, began, ended⟩ :=
    throughLayers_emits layers others logs usable asked next
  · exact .inl ⟨some, course, log⟩
  · exact .inr ⟨begun, _, began, ended⟩

theorem IsEntryCall.ends {made : Passage} {inside : Course} {error : Bool} {i : Nat}
    (called : IsEntryCall calls c made inside) (stage : made.stage = .entry r error i)
    (there : ((made.before.router r).chain error)[i]? = some e) :
    ∃ level, throughLayers r e (handle calls (run calls level) e.handler c) made.before =
      ⟨inside, made.ending, made.after⟩ := by
  obtain ⟨level, r', error', i', ended⟩ := called
  have same : made.stage = .entry r' error' i' := by
    have course := congrArg Ended.course ended
    unfold callEntry at course
    rw [within_apply] at course
    injection course with made_eq
    rw [← made_eq]
  cases stage.symm.trans same
  rw [callEntry_apply _ _ there, within_apply] at ended
  refine ⟨level, ?_⟩
  injection ended with course result world
  injection course with _ course
  rw [← course, ← result, ← world]

end

/-- A run calls an entry through the layer of a plugin that logs and is to report outcomes. If the
call ends ordinarily, then a layer further out ended it without a line in the log, or what is inside
was called. In that case the line about the outcome comes right after the lines from inside, exactly
if the plugin was on when the call began and is configured to be on; otherwise there is none. It is
enough that the plugin was on after calls that configure it and switch it on and off, as long as
none of them switched it on for this entry or for all. -/
theorem run_reports_outcomes {calls : Calls} {depth : Nat} {s r : RouterRef} {c : ContextRef}
    {w : World} {made : Passage} {inside : Course} {error : Bool} {i : Nat} {e : Entry}
    {outer deeper : List Plugin} {p : Plugin} {on : Bool}
    (called : (made, inside) ∈ (run calls depth s c w).course.entered)
    (stage : made.stage = .entry r error i)
    (there : ((made.before.router r).chain error)[i]? = some e)
    (layers : e.layers = outer ++ p :: deeper)
    (others : ∀ q ∈ outer, q.pluginClass.hook ≠ .log ∧ q.name ≠ p.name)
    (logs : p.pluginClass.hook = .log) (usable : ∀ kind, p.logger ≠ .unusable kind)
    (asked : (isEnabled r e.name (.text p.name) made.before).result = .ok (.value (.bool on)))
    (ordinary : ∀ stop, made.ending = .error stop → stop.isOrdinary = true) :
    let target := made.before.router r
    let settings := LogSettings.ofConfig (target.store.configuration p.name e.key)
    settings.after = true → settings.log = true →
      (outer ≠ [] ∧ inside = .done ∧ made.after.log = made.before.log) ∨
        ∃ level begun lines, begun.log = made.before.log ++ lines ∧
          let served := throughLayers r { e with layers := deeper }
            (handle calls (run calls level) e.handler c) begun
          let reported := ∃ sink, made.after.log =
            served.world.log ++ [outcomeLine target.name e.name made.ending sink]
          served.course = inside ∧ served.result = made.ending ∧
            (reported ↔ on = true ∧ settings.enabled = true) ∧
            (¬ reported → made.after.log = served.world.log) ∧
            ∀ (v : World) (ts : List Tuning),
              (∀ key, target.store.slot p.name key =
                ((v.tune r p.name ts).router r).store.slot p.name key) →
              (v.router r).store.Unforced p.name e.key → e.key.isTruthy = true →
              (∀ t ∈ ts, ¬ t.SwitchesOn e.key) → (reported ↔ on = true) := by
  intro target settings after log
  have entry : IsEntryCall calls c made inside :=
    EntersCalls.invariant.respects_run depth s w _ called
  obtain ⟨level, ended⟩ := entry.ends stage there
  have outcome := throughLayers_reports layers others logs usable asked
    (handle calls (run calls level) e.handler c)
  rw [ended] at outcome
  refine outcome.imp_right ?_
  rintro ⟨begun, lines, began, course, result, logged⟩
  refine ⟨level, begun, lines, began, ?_⟩
  intro served reported
  obtain ⟨sink, line⟩ := reported_eq (l := ⟨r, p, e.name⟩) usable target.name after log ordinary
  rw [← show made.ending = served.result from result, line] at logged
  have both : reported ↔ on = true ∧ settings.enabled = true := by
    constructor
    · rintro ⟨sink', reports⟩
      by_contra unwanted
      rw [if_neg unwanted] at logged
      have none := List.append_cancel_left (logged.symm.trans reports)
      cases none
    · intro wanted
      rw [if_pos wanted] at logged
      exact ⟨sink, logged⟩
  refine ⟨course.symm, result.symm, both, fun silent => ?_, fun v ts same start truthy leaves => ?_⟩
  · rw [if_neg fun wanted => silent (both.2 wanted), List.append_nil] at logged
    exact logged
  · refine ⟨fun reports => (both.1 reports).1, fun yes => both.2 ⟨yes, ?_⟩⟩
    have unforced := (World.tune_unforced leaves start).congr same
    obtain ⟨-, -, enabled⟩ := isEnabled_eq_ok asked
    exact unforced.settings_enabled truthy (enabled.trans yes)

/-- A handler that always matches, behind a plugin that logs. -/
def loggedEntry : Entry where
  name := .text "x"
  handler := .always (Small.action [])
  error := false
  plugins := ["logging"]
  layers := [loggingPlugin]
  told := [loggingPlugin]

def logged : World :=
  (loggingOnly.register 0 (.always (Small.action [])) false (.text "x") none []).2

theorem router_logged : logged.router 0 = { Small.newRouter with
    handlers := [loggedEntry]
    plugins := [loggingPlugin]
    store := PluginStore.openBucket [] "logging" } := by
  cbv

def loggedChattily : World := logged.tune 0 "logging" [.configure [("before", .bool true)]]

theorem router_loggedChattily : loggedChattily.router 0 = { Small.newRouter with
    handlers := [loggedEntry]
    plugins := [loggingPlugin]
    store := [("logging", [(everyHandler,
      { config := [("enabled", .bool true), ("before", .bool true)] })])] } := by
  cbv

theorem run_loggedChattily_enters :
    (run Small.calls 1 0 0 loggedChattily).course.entered.map (fun q =>
      (q.1.stage, q.1.before, q.1.ending)) =
        [(.entry 0 false 0, loggedChattily, .ok (.bool true))] := by
  cbv

theorem isEnabled_loggedChattily :
    (isEnabled 0 (.text "x") (.text "logging") loggedChattily).result =
      .ok (.value (.bool true)) := by
  cbv

/-- The plugin is on, and the outcome is reported. -/
theorem run_loggedChattily_reports :
    (isEnabled 0 (.text "x") (.text "logging") loggedChattily).result =
        .ok (.value (.bool true)) ∧
      ∃ made inside, (made, inside) ∈ (run Small.calls 1 0 0 loggedChattily).course.entered ∧
        made.before = loggedChattily ∧ made.ending = .ok (.bool true) ∧
        ∃ lines sink, made.after.log =
          lines ++ [outcomeLine .null (.text "x") made.ending sink] := by
  have on := isEnabled_loggedChattily
  obtain ⟨⟨made, inside⟩, called, same⟩ :=
    List.mem_map.1 (run_loggedChattily_enters ▸ List.mem_singleton_self _)
  obtain ⟨stage, before, ending⟩ : made.stage = .entry 0 false 0 ∧ made.before = loggedChattily ∧
      made.ending = .ok (.bool true) := by simpa using same
  refine ⟨on, made, inside, called, before, ending, ?_⟩
  have layers : loggedEntry.layers = [] ++ loggingPlugin :: [] := rfl
  have reports := run_reports_outcomes called stage
    (by rw [before, router_loggedChattily]; rfl) layers nofun rfl nofun
    (by rw [before]; exact on) (by rw [ending]; nofun)
  rw [before, router_loggedChattily] at reports
  obtain ⟨none, -⟩ | ⟨level, begun, lines, -, -, -, -, -, history⟩ := reports rfl rfl
  · exact absurd rfl none
  · have start : (logged.router 0).store.Unforced "logging" (.text "x") := by
      rw [router_logged]
      exact PluginStore.Unforced.nil.openBucket "logging"
    have same (key : Key) : _ = ((loggedChattily.router 0).store.slot "logging" key) :=
      congrArg (·.store.slot "logging" key) router_loggedChattily.symm
    have leaves : ∀ t ∈ [Tuning.configure [("before", .bool true)]],
        ¬ t.SwitchesOn (.text "x") := List.forall_mem_singleton.2 nofun
    obtain ⟨sink, line⟩ := (history logged _ same start rfl leaves).2 rfl
    exact ⟨_, sink, line⟩

/-- The same router where logging is configured to be off, and switched on for its handler. -/
def loggedAgain : World :=
  logged.tune 0 "logging"
    [.configure [("enabled", .bool false)], .setEnabled (.text "x") (.bool true)]

/-- The router says that the plugin is on, and the plugin does not report anything. -/
theorem run_loggedAgain_unreported :
    let e := run Small.calls 1 0 0 loggedAgain
    let settings := LogSettings.ofConfig
      ((loggedAgain.router 0).store.configuration "logging" (.text "x"))
    (isEnabled 0 (.text "x") (.text "logging") loggedAgain).result = .ok (.value (.bool true)) ∧
      settings.after = true ∧ settings.log = true ∧
      e.course.entered.map (fun q => (q.1.stage, q.1.before, q.1.ending)) =
        [(.entry 0 false 0, loggedAgain, .ok (.bool true))] ∧
      loggedAgain.log = [] ∧ e.world.log = [] := by
  refine ⟨?_, ?_, ?_, ?_, ?_, ?_⟩ <;> cbv

end Dispatch
end HandlerChains
