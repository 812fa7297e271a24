import HandlerChains.Proofs.Commands
import HandlerChains.Proofs.Dispatch.Reporting

/-!
# The log mirrors the run

Where a plugin that logs is around every entry, the log tells what was called inside what. A call
that is announced begins with its line, the lines about the calls inside it follow, and the last
line says how it ended. Both are decided when the call begins, whatever its actions configure
meanwhile. So the lines that a run adds to the log can be read off its course.
-/

namespace HandlerChains

open Dispatch Dispatch.Layer Exec

def World.lines (w : World) : List LogLine := w.log.filter fun l => decide (l.sink ≠ .debug)

/-! ## What is to be logged -/

def Logger.handled? : Logger → Option Sink
  | standard => some .info
  | custom => some .custom
  | silent | unusable _ => none

namespace Entry

def logging? (e : Entry) : Option Plugin := e.layers.find? fun p => p.pluginClass.hook == .log

/-- An entry with no more than the layers that are further out than the one that logs. -/
def unlogged (e : Entry) : Entry :=
  { e with layers := e.layers.takeWhile fun p => p.pluginClass.hook != .log }

end Entry

/-- Whether the layers of an entry let a call through to what is inside them. It is tried with a
call that does nothing but leave a trace in its course. -/
def Dispatch.letsIn (r : RouterRef) (e : Entry) (w : World) : Bool :=
  match (throughLayers r e (within (.run r) (return .null)) w).course with
  | .done => false
  | .step .. => true

/-- How a call is logged: under which name, whether its beginning and its end are, and where to. -/
structure CallReport where
  label : String
  before : Bool
  after : Bool
  sink : Sink

def CallReport.lines (s : CallReport) (ending : Except Stop Value) (inside : List LogLine) :
    List LogLine :=
  let line (text : String) : LogLine := ⟨s.sink, s.label ++ text⟩
  let start := if s.before then [line " start"] else []
  let outcome :=
    match ending with
    | .ok v => [line ((if v.isTruthy then " matched" else " declined") ++ elapsed)]
    | .error (.failed f) =>
      if f.isOrdinary then [line (" failed: " ++ f.literal ++ elapsed)] else []
    | .error _ => []
  start ++ inside ++ if s.after then outcome else []

namespace Passage

def entry? (p : Passage) : Option (RouterRef × Entry) :=
  match p.stage with
  | .entry r error i => ((p.before.router r).chain error)[i]?.map (r, ·)
  | _ => none

/-- How the call of an entry is logged, as it is configured when the call begins. A call that ends
in a layer further out never comes to that. -/
def report? (p : Passage) : Option CallReport := do
  let (r, e) ← p.entry?
  let plugin ← e.logging?
  let sink ← plugin.logger.handled?
  let target := p.before.router r
  let settings := LogSettings.ofConfig (target.store.configuration plugin.name e.key)
  if letsIn r e.unlogged p.before then
    some
      { label := logLabel target.name e.name
        before := settings.before
        after := settings.after
        sink }
  else none

end Passage

namespace Course

/-- All passages of a course, also those inside calls of actions. -/
def passages : Course → List Passage
  | done => []
  | step p inside rest => p :: inside.passages ++ rest.passages

def lines : Course → List LogLine
  | done => []
  | step p inside rest =>
    (match p.report? with
    | some s => s.lines p.ending inside.lines
    | none => inside.lines) ++ rest.lines

theorem passages_append (s t : Course) : (s ++ t).passages = s.passages ++ t.passages := by
  induction s with
  | done => rfl
  | step p inside rest _ ih => simp [passages, ih]

theorem lines_append (s t : Course) : (s ++ t).lines = s.lines ++ t.lines := by
  induction s with
  | done => rfl
  | step p inside rest _ ih => simp [lines, ih]

end Course

/-- Around an entry there is one plugin that logs. It is on for the entry in a world, and configured
to log and not to print, to a logger with handlers. -/
structure World.LogsCalls (w : World) (r : RouterRef) (e : Entry) (outer : List Plugin) (p : Plugin)
    (deeper : List Plugin) (sink : Sink) : Prop where
  layers : e.layers = outer ++ p :: deeper
  alone : ∀ q ∈ outer ++ deeper, q.pluginClass.hook ≠ .log
  logs : p.pluginClass.hook = .log
  named : ∀ q ∈ outer, q.name ≠ p.name
  handled : p.logger.handled? = some sink
  on : (isEnabled r e.name (.text p.name) w).result = .ok (.value (.bool true))
  enabled : (LogSettings.ofConfig
    ((w.router r).store.configuration p.name e.key)).enabled = true
  log : (LogSettings.ofConfig ((w.router r).store.configuration p.name e.key)).log = true
  print : (LogSettings.ofConfig ((w.router r).store.configuration p.name e.key)).print = false

/-- Every call of an entry is logged, whatever else is configured before it begins. -/
def Course.Logged (t : Course) : Prop :=
  ∀ q ∈ t.passages, ∀ r e, q.entry? = some (r, e) →
    ∃ outer p deeper sink, q.before.LogsCalls r e outer p deeper sink

/-! ## Layers -/

namespace Dispatch

variable {R : World → World → Prop} {r : RouterRef} {e : Entry} {w v : World}

theorem letsIn_of_passes (passes : Passes R (throughLayers r e) w v) :
    letsIn r e w = true := by
  obtain ⟨after, -, eq⟩ := passes.2 (within (.run r) (return .null))
  rw [letsIn, eq]
  rfl

theorem letsIn_of_endsAs {result : Except Stop Value}
    (ends : EndsAs R result (throughLayers r e) w) : letsIn r e w = false := by
  obtain ⟨after, -, eq⟩ := ends (within (.run r) (return .null))
  rw [letsIn, eq]

end Dispatch

theorem Logger.usable_of_handled {logger : Logger} {sink : Sink}
    (handled : logger.handled? = some sink) (kind : String) : logger ≠ .unusable kind := by
  rintro rfl
  cases handled

theorem Dispatch.Layer.LogSettings.sink?_of_handled {s : LogSettings} {logger : Logger}
    {sink : Sink} (log : s.log = true) (print : s.print = false)
    (handled : logger.handled? = some sink) : s.sink? logger = .ok (some sink) := by
  unfold sink?
  rw [print, log]
  cases logger <;> cases handled <;> rfl

theorem CallReport.lines_eq {l : Layer} {settings : LogSettings} {sink : Sink}
    (takes : settings.sink? l.plugin.logger = .ok (some sink)) (router : Value)
    (ending : Except Stop Value) (inside : List LogLine) :
    let report : CallReport :=
      ⟨logLabel router l.entry, settings.before, settings.after, sink⟩
    report.lines ending inside =
      l.emitted router settings settings.before " start" ++ inside ++
        l.reported router settings ending := by
  intro report
  have emitted : ∀ wanted text, l.emitted router settings wanted text =
      if wanted then [⟨sink, logLabel router l.entry ++ text⟩] else [] := fun wanted text => by
    rw [Layer.emitted, takes]
  have outcome : l.reported router settings ending =
      if settings.after then
        match ending with
        | .ok v => [⟨sink, logLabel router l.entry ++
            ((if v.isTruthy then " matched" else " declined") ++ elapsed)⟩]
        | .error (.failed f) =>
          if f.isOrdinary then [⟨sink, logLabel router l.entry ++
            (" failed: " ++ f.literal ++ elapsed)⟩] else []
        | .error _ => []
      else [] := by
    cases ending with
    | ok v => exact emitted _ _
    | error s =>
      cases s with
      | failed f =>
        simp only [reported, emitted]
        split <;> simp
      | _ => simp [reported]
  rw [emitted, outcome]
  rfl

namespace World.LogsCalls

variable {w : World} {r : RouterRef} {e : Entry} {outer deeper : List Plugin} {p : Plugin}
variable {sink : Sink}

theorem logging?_eq (h : w.LogsCalls r e outer p deeper sink) : e.logging? = some p := by
  have none : outer.find? (fun q => q.pluginClass.hook == .log) = none := by
    refine List.find?_eq_none.2 fun q mem => ?_
    simpa using h.alone q (List.mem_append_left _ mem)
  rw [Entry.logging?, h.layers, List.find?_append, none, List.find?_cons_of_pos (by simp [h.logs])]
  rfl

theorem unlogged_eq (h : w.LogsCalls r e outer p deeper sink) :
    e.unlogged = { e with layers := outer } := by
  have all : ∀ q ∈ outer, (q.pluginClass.hook != .log) = true := fun q mem => by
    simpa using h.alone q (List.mem_append_left _ mem)
  rw [Entry.unlogged, h.layers, List.takeWhile_append_of_pos all,
    List.takeWhile_cons_of_neg (by simp [h.logs]), List.append_nil]

theorem others (h : w.LogsCalls r e outer p deeper sink) :
    ∀ q ∈ outer, q.pluginClass.hook ≠ .log ∧ q.name ≠ p.name :=
  fun q mem => ⟨h.alone q (List.mem_append_left _ mem), h.named q mem⟩

theorem report?_eq (h : w.LogsCalls r e outer p deeper sink) {stage : Stage}
    {ending : Except Stop Value} {after : World}
    (entry : Passage.entry? ⟨stage, w, ending, after⟩ = some (r, e)) :
    Passage.report? ⟨stage, w, ending, after⟩ =
      let settings := LogSettings.ofConfig ((w.router r).store.configuration p.name e.key)
      if letsIn r { e with layers := outer } w then
        some ⟨logLabel (w.router r).name e.name, settings.before, settings.after, sink⟩
      else none := by
  simp only [Passage.report?, entry, h.logging?_eq, h.handled, h.unlogged_eq, bind, Option.bind]

end World.LogsCalls

/-! ## Runs -/

theorem World.lines_of_log {w v : World} {added : List LogLine} (log : v.log = w.log ++ added)
    (shown : ∀ l ∈ added, l.sink ≠ .debug) : v.lines = w.lines ++ added := by
  have kept : added.filter (fun l => decide (l.sink ≠ .debug)) = added :=
    List.filter_eq_self.2 fun l mem => decide_eq_true (shown l mem)
  rw [lines, log, List.filter_append, kept, lines]

namespace Exec

/-- What is added to the log reflects the course, if every call in it is logged. -/
def Reflects (w : World) (t : Course) (v : World) : Prop :=
  t.Logged → v.lines = w.lines ++ t.lines

namespace Reflects

variable {w v : World} {t : Course}

theorem aside (same : v.log = w.log) : Reflects w .done v := by
  intro _
  rw [World.lines, same, Course.lines, List.append_nil]
  rfl

theorem debugLine (w : World) (text : String) : Reflects w .done (w.logLine ⟨.debug, text⟩) := by
  intro _
  simp [World.lines, World.logLine, Course.lines]

theorem composes : Composes Reflects where
  done _ := aside rfl
  append {w₁ w₂ w₃ s t} h h' logged := by
    have mem : ∀ q, q ∈ (s ++ t).passages ↔ q ∈ s.passages ∨ q ∈ t.passages := fun q => by
      rw [Course.passages_append, List.mem_append]
    have first := h fun q hq => logged q ((mem q).2 (.inl hq))
    have second := h' fun q hq => logged q ((mem q).2 (.inr hq))
    rw [second, first, Course.lines_append, List.append_assoc]

theorem quiet : QuietInvariant Reflects where
  toComposes := composes
  event _ _ := aside rfl
  modules _ _ := aside rfl
  store _ _ _ := aside rfl
  debugLine := debugLine

theorem stage {q : Passage} (other : q.entry? = none) (h : Reflects w t v) :
    Reflects w (.step q t .done) v := by
  intro logged
  have silent : q.report? = none := by
    rw [Passage.report?, other]
    rfl
  have inside := h fun p mem => logged p (by simp [Course.passages, mem])
  rw [inside, Course.lines, silent, Course.lines, List.append_nil]

/-- The layers of an entry add their own lines around those from inside. If a layer further out ends
the call, there is nothing inside and nothing is added. -/
theorem throughLayers {r : RouterRef} {e : Entry} {outer deeper : List Plugin} {p : Plugin}
    {sink : Sink} (h : w.LogsCalls r e outer p deeper sink) {next : Exec Value}
    (hn : Respects Reflects next) :
    let settings := LogSettings.ofConfig ((w.router r).store.configuration p.name e.key)
    let ended := Dispatch.throughLayers r e next w
    ended.course.Logged → ended.world.lines = w.lines ++
      if letsIn r { e with layers := outer } w then
        CallReport.lines
          ⟨logLabel (w.router r).name e.name, settings.before, settings.after, sink⟩
          ended.result ended.course.lines
      else ended.course.lines := by
  intro settings ended logged
  have emits := throughLayers_emits h.layers h.others h.logs (Logger.usable_of_handled h.handled)
    h.on next
  obtain ⟨-, ends, course, log⟩ | ⟨⟨v, passes⟩, begun, started, course, result, log⟩ := emits
  · rw [if_neg (by rw [letsIn_of_endsAs ends]; nofun), show ended.course = .done from course]
    exact aside log (fun _ mem => nomatch mem)
  · -- the settings are those from before the layers began, whatever was configured since
    let l : Layer := ⟨r, p, e.name⟩
    rw [if_pos ⟨rfl, h.enabled⟩] at started log
    have inside := quiet.throughSilent r (e := { e with layers := deeper })
      (fun q mem => h.alone q (List.mem_append_right _ mem)) hn begun
    rw [← course] at inside
    have takes := LogSettings.sink?_of_handled h.log h.print h.handled
    have own := CallReport.lines_eq (l := l) takes (w.router r).name ended.result ended.course.lines
    rw [if_pos (letsIn_of_passes passes), own, World.lines_of_log log (l.reported_shown _ _ _),
      inside logged, World.lines_of_log started (l.emitted_shown _ _ _ _), ← result]
    simp only [List.append_assoc, l, ended]

theorem callEntry {calls : Calls} {inner : RouterRef → ContextRef → Exec Value} {c : ContextRef}
    (handles : ∀ h, Respects Reflects (handle calls inner h c)) (r : RouterRef) (error : Bool)
    (i : Nat) : Respects Reflects (Dispatch.callEntry calls inner r error c i) := by
  intro w
  cases there : ((w.router r).chain error)[i]? with
  | none =>
    have course : Dispatch.callEntry calls inner r error c i w =
        ⟨.step ⟨.entry r error i, w, .ok (.bool false), w⟩ .done .done, .ok (.bool false), w⟩ := by
      simp [Dispatch.callEntry, within_apply, bind_apply, there]
    rw [course]
    exact stage (by simp [Passage.entry?, there]) (composes.done w)
  | some e =>
    rw [callEntry_apply _ _ there, within_apply]
    intro logged
    have entry : ∀ ending after,
        Passage.entry? ⟨.entry r error i, w, ending, after⟩ = some (r, e) := by
      intro _ _
      simp [Passage.entry?, there]
    obtain ⟨outer, p, deeper, sink, h⟩ : ∃ outer p deeper sink,
        w.LogsCalls r e outer p deeper sink := logged _ List.mem_cons_self r e (entry _ _)
    have lines := throughLayers h (handles e.handler) fun q mem =>
      logged q (by simp [Course.passages, mem])
    rw [Course.lines, Course.lines, List.append_nil, h.report?_eq (entry _ _)]
    refine lines.trans (congrArg (w.lines ++ ·) ?_)
    split <;> rfl

variable {calls : Calls}

theorem calling {s : Stage} {x : Exec Value}
    (other : ∀ before ending after, Passage.entry? ⟨s, before, ending, after⟩ = none)
    (hx : Respects Reflects x) : Respects Reflects (within s x) :=
  fun w => stage (other _ _ _) (hx w)

theorem handlers (respect : calls.Respect Reflects) (c : ContextRef) :
    HandlerInvariant calls c Reflects where
  toQuietInvariant := quiet
  context _ _ _ := aside rfl
  handler _ _ _ _ _ h := stage rfl h
  action _ u := calling (fun _ _ _ => rfl) (quiet.take (fun f => respect.act f c) u)
  predicate p := calling (fun _ _ _ => rfl) (respect.ask p c)
  override _ _ f := calling (fun _ _ _ => rfl) (respect.act f c)

theorem runs (respect : calls.Respect Reflects) (c : ContextRef) :
    RunInvariant calls c Reflects where
  toComposes := composes
  debugLine := debugLine
  override := (handlers respect c).override
  run _ _ _ _ _ h := stage rfl h
  callEntry _ hinner := callEntry ((handlers respect c).handle hinner)
  recovery w r f e t v h := by
    have before : Reflects w .done (w.putFailure c (some f)) := aside rfl
    have after : Reflects v .done (v.putFailure c (w.context c).failure) := aside rfl
    exact composes.append (composes.append before (stage rfl h)) after

/-- Commands log nothing but what the runs log that they start. -/
theorem commands : CommandInvariant Reflects where
  toComposes := composes
  aside _ log := aside log
  store := quiet.store
  add _ _ := aside rfl
  register w r h error name derived options := by
    apply aside
    cases passes : w.expectNoCycle r h with
    | error f => rw [World.register_of_refused w r h error name derived options passes]
    | ok _ =>
      rw [World.register_of_passes w r h error name derived options passes]
      rfl
  plug _ _ _ _ _ _ := aside rfl
  debugLine := debugLine
  override _ _ _ _ _ _ h := stage rfl h
  run respect depth r c := (runs respect c).respects_run depth r
  handle respect _ hinner h c := (handlers respect c).handle (fun r => hinner r c) h

end Reflects
end Exec

namespace Dispatch

/-- Where a plugin that logs is around every entry that is called, the log mirrors the run. To what
was there a run adds for each call its first line, then the lines about the calls inside it, then
its last line, and nothing else but lines for debugging. Runs may be started by actions, too. -/
theorem run_lines {level depth : Nat} {r : RouterRef} {c : ContextRef} {w : World} :
    let ended := run (callsWithin level) depth r c w
    ended.course.Logged → ended.world.lines = w.lines ++ ended.course.lines :=
  (Reflects.runs (Reflects.commands.callsWithin level) c).respects_run depth r w

/-- So it is with whatever command is performed. -/
theorem perform_lines {level : Nat} {command : Command} {w : World} :
    let ended := perform (callsWithin level) command w
    ended.course.Logged → ended.world.lines = w.lines ++ ended.course.lines :=
  Reflects.commands.perform (Reflects.commands.callsWithin level) command w

end Dispatch

/-! ## Entries with a single layer -/

def World.logsAlone (w : World) (r : RouterRef) (e : Entry) : Bool :=
  match e.layers with
  | [p] =>
    let settings := LogSettings.ofConfig ((w.router r).store.configuration p.name e.key)
    let on := match (isEnabled r e.name (.text p.name) w).result with
      | .ok (.value (.bool on)) => on
      | _ => false
    p.pluginClass.hook == .log && p.logger.handled?.isSome && on && settings.enabled &&
      settings.log && !settings.print
  | _ => false

theorem World.LogsCalls.of_logsAlone {w : World} {r : RouterRef} {e : Entry}
    (alone : w.logsAlone r e = true) :
    ∃ outer p deeper sink, w.LogsCalls r e outer p deeper sink := by
  unfold logsAlone at alone
  split at alone
  · next p layers =>
    simp only [Bool.and_eq_true, beq_iff_eq, Bool.not_eq_true'] at alone
    obtain ⟨⟨⟨⟨⟨logs, handled⟩, on⟩, enabled⟩, log⟩, print⟩ := alone
    obtain ⟨sink, handled⟩ := Option.isSome_iff_exists.1 handled
    refine ⟨[], p, [], sink, layers, nofun, logs, nofun, handled, ?_, enabled, log, print⟩
    split at on
    · next answer => rw [answer, on]
    · cases on
  · cases alone

def Course.logsAlone (t : Course) : Bool :=
  t.passages.all fun q => q.entry?.all fun (r, e) => q.before.logsAlone r e

theorem Course.Logged.of_logsAlone {t : Course} (alone : t.logsAlone = true) : t.Logged := by
  intro q mem r e entry
  have here := List.all_eq_true.1 alone q mem
  rw [entry] at here
  exact World.LogsCalls.of_logsAlone here

def announced (name : String) (error : Bool) (h : Handler) : Entry where
  name := .text name
  handler := h
  error := error
  plugins := ["logging"]
  layers := [loggingPlugin]
  told := [loggingPlugin]

/-- A router with a plugin that logs, which is configured for all handlers. -/
def announcing (name : String) (config : Assoc Value) (handlers errors : List (String × Handler)) :
    Router :=
  { Small.newRouter with
    name := .text name
    handlers := handlers.map fun (name, h) => announced name false h
    errorHandlers := errors.map fun (name, h) => announced name true h
    plugins := [loggingPlugin]
    store := [("logging", [(everyHandler, { config := ("enabled", .bool true) :: config })])] }

/-- A router inside another one, which also says when calls begin. The action of the inner one puts
an end to that, wants no more outcomes of its own router, and fails. -/
def restless : World :=
  { Small.world
      [announcing "outer" [("before", .bool true)] [("mount", .mount (Small.letter 'a') 1)]
          [("error", .always (Small.action []))],
        announcing "inner" []
          [("handler", .always (Small.action
            [.perform (.configure "outer" (.text "logging") [("before", .bool false)]),
              .perform (.configure "inner" (.text "logging") [("after", .bool false)]),
              .fail (.raised .boom "")]))] []]
      { route := .text "a" } with
    routerNames := [("outer", 0), ("inner", 1)] }

/-- The call inside the router began while its outcome was wanted. The error handler is called when
nobody wants to know any more when calls begin. -/
theorem run_restless_lines :
    let ended := Dispatch.run (callsWithin 2) 2 0 0 restless
    ended.course.Logged ∧ ended.world.lines = restless.lines ++ ended.course.lines ∧
      ended.world.lines.map LogLine.text =
        ["outer:mount start", "inner:handler failed: Boom('') (# ms)",
          "outer:mount failed: Boom('') (# ms)", "outer:error matched (# ms)"] := by
  intro ended
  have logged : ended.course.Logged := .of_logsAlone (by decide +kernel)
  exact ⟨logged, Dispatch.run_lines logged, by decide +kernel⟩

end HandlerChains
