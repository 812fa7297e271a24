import HandlerChains.Dispatch.Run

/-!
# What layers let through

Most plugins watch: their layers report, log and count, but what is called inside them ends as it
would without them. Such a layer can still fail before the call, where it cannot count or finds
something else in the place of the way to its store. One that logs adds lines before and after the
call, and does nothing else.
-/

namespace HandlerChains

/-- Two worlds that differ at most in what plugins keep and in what is reported and logged. -/
structure World.Alike (w w' : World) : Prop where
  context : ∀ c, w'.context c = w.context c
  router : ∀ r, ∃ s, w'.router r = { w.router r with store := s }

namespace World.Alike

variable {w w' w'' : World}

theorem refl (w : World) : Alike w w := ⟨fun _ => rfl, fun r => ⟨(w.router r).store, rfl⟩⟩

theorem trans (h : Alike w w') (h' : Alike w' w'') : Alike w w'' where
  context c := (h'.context c).trans (h.context c)
  router r := by
    obtain ⟨s, hs⟩ := h.router r
    obtain ⟨s', hs'⟩ := h'.router r
    exact ⟨s', by rw [hs', hs]⟩

theorem record (w : World) (e : Event) : Alike w (w.record e) :=
  ⟨fun _ => rfl, fun r => ⟨(w.router r).store, rfl⟩⟩

theorem logLine (w : World) (l : LogLine) : Alike w (w.logLine l) :=
  ⟨fun _ => rfl, fun r => ⟨(w.router r).store, rfl⟩⟩

theorem setStore (w : World) (r : RouterRef) (s : PluginStore) :
    Alike w (w.setRouter r { w.router r with store := s }) where
  context _ := rfl
  router r' := by
    by_cases h : r' = r
    · subst h
      exact ⟨s, by rw [router_setRouter_self]⟩
    · exact ⟨(w.router r').store, by rw [router_setRouter_of_ne _ _ h]⟩

end World.Alike

def World.logLines (w : World) (lines : List LogLine) : World := { w with log := w.log ++ lines }

@[simp] theorem World.logLines_nil (w : World) : w.logLines [] = w := by simp [logLines]

theorem World.logLines_logLines (w : World) (lines lines' : List LogLine) :
    (w.logLines lines).logLines lines' = w.logLines (lines ++ lines') := by
  simp [logLines]

/-- Two worlds that differ at most in lines that were logged meanwhile, none of them for
debugging. -/
def World.Logged (w w' : World) : Prop :=
  ∃ lines, (∀ l ∈ lines, l.sink ≠ .debug) ∧ w' = { w with log := w.log ++ lines }

namespace World.Logged

variable {w w' : World}

theorem logLines (w : World) {lines : List LogLine} (shown : ∀ l ∈ lines, l.sink ≠ .debug) :
    Logged w (w.logLines lines) :=
  ⟨lines, shown, rfl⟩

theorem alike (h : Logged w w') : Alike w w' := by
  obtain ⟨lines, -, rfl⟩ := h
  exact ⟨fun _ => rfl, fun r => ⟨(w.router r).store, rfl⟩⟩

end World.Logged

/-- Whether a plugin leaves it to the calls inside its layers how they end. One that logs has to
have a logger that can be asked. -/
def Plugin.watches (p : Plugin) : Bool :=
  match p.pluginClass.hook, p.logger with
  | .gate, _ | .log, .unusable _ => false
  | _, _ => true

namespace Dispatch

open Exec World

/-- What stands around a call changes the world in no more than some way before it and after it, and
passes on how it ends. -/
def Passes (R : World → World → Prop) (around : Exec Value → Exec Value) (w w' : World) : Prop :=
  R w w' ∧ ∀ call, ∃ after, R (call w').world after ∧
    around call w = ⟨(call w').course, (call w').result, after⟩

/-- What stands around a call logs lines before it and after it, whatever the call and the contexts
are, and passes on how it ends. The lines after it depend on how it ends. -/
def Logs (around : Exec Value → Exec Value) (w : World) : Prop :=
  ∃ (before : List LogLine) (after : Except Stop Value → List LogLine),
    (∀ l ∈ before, l.sink ≠ .debug) ∧ (∀ result, ∀ l ∈ after result, l.sink ≠ .debug) ∧
    ∀ call v, v.routers = w.routers →
      around call v = (let e := call (v.logLines before)
        ⟨e.course, e.result, e.world.logLines (after e.result)⟩)

theorem Logs.passes {around : Exec Value → Exec Value} {w : World} (logs : Logs around w) :
    ∃ w', Passes Logged around w w' := by
  obtain ⟨before, after, shown, shown', eq⟩ := logs
  exact ⟨_, .logLines w shown, fun call => ⟨_, .logLines _ (shown' _), eq call w rfl⟩⟩

theorem Logs.congr {outer inner : Exec Value → Exec Value} {w : World} (logs : Logs outer w)
    (eq : ∀ call v, v.routers = w.routers → inner call v = outer call v) : Logs inner w := by
  obtain ⟨before, after, shown, shown', logs⟩ := logs
  refine ⟨before, after, shown, shown', fun call v same => ?_⟩
  rw [eq call v same]
  exact logs call v same

theorem Logs.comp {outer inner : Exec Value → Exec Value} {w : World} (logs : Logs outer w)
    (logs' : Logs inner w) : Logs (fun call => outer (inner call)) w := by
  obtain ⟨before, after, shown, shown', eq⟩ := logs
  obtain ⟨before', after', inside, inside', eq'⟩ := logs'
  refine ⟨before ++ before', fun result => after' result ++ after result, ?_, ?_, ?_⟩
  · exact List.forall_mem_append.2 ⟨shown, inside⟩
  · exact fun result => List.forall_mem_append.2 ⟨inside' result, shown' result⟩
  · intro call v same
    have within : (v.logLines before).routers = w.routers := same
    have here := eq (inner call) v same
    rw [eq' call _ within] at here
    simpa only [logLines_logLines] using here

theorem Logs.id (w : World) : Logs (fun call => call) w :=
  ⟨[], fun _ => [], nofun, fun _ => nofun, fun call v _ => by simp⟩

theorem Logs.ite {around inner : Exec Value → Exec Value} {w : World} (logs : Logs inner w)
    (wanted : Bool) (eq : ∀ call v, v.routers = w.routers →
      around call v = (if wanted then inner call else call) v) : Logs around w := by
  cases wanted with
  | false => exact (Logs.id w).congr eq
  | true => exact logs.congr eq

/-- What stands around a call ends in its place with some result, whatever the call is, and changes
the world in no more than some way. -/
def EndsAs (R : World → World → Prop) (result : Except Stop Value)
    (around : Exec Value → Exec Value) (w : World) : Prop :=
  ∀ call, ∃ after, R w after ∧ around call w = ⟨.done, result, after⟩

section

variable {R : World → World → Prop} {outer inner : Exec Value → Exec Value} {w w₁ w₂ : World}
variable {result : Except Stop Value}

theorem Passes.refl (refl : ∀ v, R v v) (w : World) : Passes R (fun call => call) w w :=
  ⟨refl w, fun _ => ⟨_, refl _, rfl⟩⟩

theorem Passes.congr (h : Passes R outer w w₁) (eq : ∀ call, inner call w = outer call w) :
    Passes R inner w w₁ := by
  refine ⟨h.1, fun call => ?_⟩
  rw [eq]
  exact h.2 call

theorem Passes.comp (trans : ∀ {u v x}, R u v → R v x → R u x) (h : Passes R outer w w₁)
    (h' : Passes R inner w₁ w₂) : Passes R (fun call => outer (inner call)) w w₂ := by
  refine ⟨trans h.1 h'.1, fun call => ?_⟩
  obtain ⟨after', related', eq'⟩ := h'.2 call
  obtain ⟨after, related, eq⟩ := h.2 (inner call)
  rw [eq'] at related eq
  exact ⟨after, trans related' related, eq⟩

theorem EndsAs.congr (h : EndsAs R result outer w) (eq : ∀ call, inner call w = outer call w) :
    EndsAs R result inner w := by
  intro call
  rw [eq]
  exact h call

theorem EndsAs.comp (h : EndsAs R result outer w) (inner : Exec Value → Exec Value) :
    EndsAs R result (fun call => outer (inner call)) w :=
  fun call => h (inner call)

theorem Passes.comp_endsAs (trans : ∀ {u v x}, R u v → R v x → R u x) (h : Passes R outer w w₁)
    (h' : EndsAs R result inner w₁) : EndsAs R result (fun call => outer (inner call)) w := by
  intro call
  obtain ⟨after', related', eq'⟩ := h' call
  obtain ⟨after, related, eq⟩ := h.2 (inner call)
  rw [eq'] at related eq
  exact ⟨after, trans (trans h.1 related') related, eq⟩

end

/-- What stands around a call makes it in a world like the one before, and passes on how it ends. -/
def LetsThrough : (around : Exec Value → Exec Value) → (w w' : World) → Prop := Passes Alike

/-- What stands around a call ends early in its place, whatever the call is. -/
def Blocks (around : Exec Value → Exec Value) (w : World) : Prop :=
  ∃ s, ∀ call, ∃ after, Alike w after ∧ around call w = ⟨.done, .error s, after⟩

theorem LetsThrough.refl (w : World) : LetsThrough (fun call => call) w w :=
  Passes.refl Alike.refl w

variable {outer inner : Exec Value → Exec Value} {w w₁ w₂ : World}

theorem LetsThrough.congr (h : LetsThrough outer w w₁) (eq : ∀ call, inner call w = outer call w) :
    LetsThrough inner w w₁ :=
  Passes.congr h eq

theorem LetsThrough.comp (h : LetsThrough outer w w₁) (h' : LetsThrough inner w₁ w₂) :
    LetsThrough (fun call => outer (inner call)) w w₂ :=
  Passes.comp Alike.trans h h'

theorem Blocks.of_endsAs {s : Stop} (h : EndsAs Alike (.error s) outer w) : Blocks outer w := ⟨s, h⟩

theorem Blocks.congr (h : Blocks outer w) (eq : ∀ call, inner call w = outer call w) :
    Blocks inner w :=
  h.imp fun _ ends => EndsAs.congr ends eq

theorem Blocks.comp (h : Blocks outer w) (inner : Exec Value → Exec Value) :
    Blocks (fun call => outer (inner call)) w :=
  h.imp fun _ ends => EndsAs.comp ends inner

theorem LetsThrough.comp_blocks (h : LetsThrough outer w w₁) (h' : Blocks inner w₁) :
    Blocks (fun call => outer (inner call)) w :=
  h'.imp fun _ ends => Passes.comp_endsAs Alike.trans h ends

namespace Layer

theorem expectStore_cases (l : Layer) (name : String) (n : Nat) (w : World) :
    l.expectStore name n w = ⟨.done, .ok (), w⟩ ∨
      ∃ s, l.expectStore name n w = ⟨.done, .error s, w⟩ := by
  simp only [expectStore, bind_apply, router_apply, Ended.andThen_ok]
  cases (w.router l.router).expect name (.several n) with
  | error f => exact .inr ⟨_, rfl⟩
  | ok _ =>
    cases (w.router l.router).expect "_get_plugin_bucket" (.alone "str") with
    | error f => exact .inr ⟨.failed f, by rfl⟩
    | ok _ => exact .inl rfl

@[simp] theorem store_apply (l : Layer) (w : World) :
    l.store w = ⟨.done, .ok (w.router l.router).store, w⟩ := rfl

def emitted (l : Layer) (router : Value) (settings : LogSettings) (wanted : Bool) (text : String) :
    List LogLine :=
  if wanted then
    match settings.sink? l.plugin.logger with
    | .ok (some sink) => [⟨sink, logLabel router l.entry ++ text⟩]
    | _ => []
  else []

theorem emitted_shown (l : Layer) (router : Value) (settings : LogSettings) (wanted : Bool)
    (text : String) : ∀ line ∈ l.emitted router settings wanted text, line.sink ≠ .debug := by
  unfold emitted
  split
  · split
    · next sink asked =>
      refine List.forall_mem_singleton.2 fun debug => ?_
      unfold LogSettings.sink? at asked
      split at asked <;> (try split at asked) <;> (try split at asked) <;> cases asked <;>
        cases debug
    · exact nofun
  · exact nofun

theorem emit_ok {l : Layer} (router : Value) (settings : LogSettings) (wanted : Bool)
    (text : String) (h : ∀ kind, l.plugin.logger ≠ .unusable kind) (w : World) :
    l.emit router settings wanted text w =
      ⟨.done, .ok (), w.logLines (l.emitted router settings wanted text)⟩ := by
  unfold emit emitted
  cases wanted with
  | false => rw [if_neg nofun, if_neg nofun, logLines_nil]; rfl
  | true =>
    have usable : ∃ sink, settings.sink? l.plugin.logger = .ok sink := by
      unfold LogSettings.sink?
      cases hl : l.plugin.logger with
      | unusable kind => exact absurd hl (h kind)
      | _ => split <;> (try split) <;> exact ⟨_, rfl⟩
    obtain ⟨sink, hs⟩ := usable
    cases sink with
    | none => simp [bind_apply, Exec.lift, hs]
    | some sink =>
      simp [bind_apply, Exec.lift, hs]
      rfl

/-- The line that a layer logs after a call. -/
def reported (l : Layer) (router : Value) (settings : LogSettings) :
    Except Stop Value → List LogLine
  | .ok v => l.emitted router settings settings.after
      ((if v.isTruthy then " matched" else " declined") ++ elapsed)
  | .error s =>
    match s with
    | .failed f =>
      if f.isOrdinary then
        l.emitted router settings settings.after (" failed: " ++ f.literal ++ elapsed)
      else []
    | _ => []

theorem reported_shown (l : Layer) (router : Value) (settings : LogSettings)
    (result : Except Stop Value) : ∀ line ∈ l.reported router settings result,
      line.sink ≠ .debug := by
  unfold reported
  split
  · exact l.emitted_shown _ _ _ _
  · split
    · split
      · exact l.emitted_shown _ _ _ _
      · exact nofun
    · exact nofun

theorem trace_passes {R : World → World → Prop} (refl : ∀ w, R w w)
    (records : ∀ w e, R w (w.record e)) (l : Layer) (w : World) : ∃ w', Passes R l.trace w w' := by
  refine ⟨_, records w (.entered l.plugin.name l.entry), fun call => ?_⟩
  simp only [trace, bind_apply, record_apply, Ended.andThen_ok, Course.done_append]
  rcases call _ with ⟨course, stop | v, w'⟩
  · exact ⟨w', refl w', rfl⟩
  · exact ⟨_, records w' (.exited l.plugin.name l.entry v), by simp [bind_apply]⟩

theorem count_passes {R : World → World → Prop} (refl : ∀ w, R w w) (l : Layer) (w : World)
    (counts : ∀ calls, R w (w.setRouter l.router { w.router l.router with
      store := (w.router l.router).store.writeData l.plugin.name l.entry.key (.text "calls")
        calls })) :
    (∃ w', Passes R l.count w w') ∨ ∃ s, EndsAs R (.error s) l.count w := by
  have ends : ∀ {s}, (∀ call, l.count call w = ⟨.done, .error s, w⟩) →
      ∃ s, EndsAs R (.error s) l.count w := fun h => ⟨_, fun call => ⟨w, refl w, h call⟩⟩
  obtain reads | ⟨s, stops⟩ := l.expectStore_cases "get_runtime_data" 4 w
  · cases counted : (((w.router l.router).store.data? l.plugin.name l.entry.key
        (.text "calls")).getD (.int 0)).succ? with
    | none => exact .inr (ends fun call => by simp [count, bind_apply, reads, counted]; rfl)
    | some calls =>
      obtain writes | ⟨s, stops⟩ := l.expectStore_cases "set_runtime_data" 4 w
      · refine .inl ⟨_, counts calls, fun call => ⟨_, refl _, ?_⟩⟩
        simp [count, bind_apply, reads, counted, writes]
      · exact .inr (ends fun call => by simp [count, bind_apply, reads, counted, stops]; rfl)
  · exact .inr (ends fun call => by simp [count, bind_apply, stops]; rfl)

theorem report_eq {l : Layer} (h : ∀ kind, l.plugin.logger ≠ .unusable kind) (router : Value)
    (settings : LogSettings) (call : Exec Value) (w : World) :
    l.report router settings call w =
      let e := call (w.logLines (l.emitted router settings settings.before " start"))
      ⟨e.course, e.result, e.world.logLines (l.reported router settings e.result)⟩ := by
  have first := emit_ok (l := l) router settings settings.before " start" h w
  rcases ended : call (w.logLines (l.emitted router settings settings.before " start")) with
    ⟨course, s | value, after⟩
  · cases ordinary : s.isOrdinary with
    | false =>
      have silent : l.reported router settings (.error s) = [] := by
        cases s with
        | failed f => simp [reported, show f.isOrdinary = false from ordinary]
        | _ => rfl
      simp [report, bind_apply, first, attempt_stopped ended ordinary, silent]
    | true =>
      obtain ⟨f, rfl, fails⟩ := Stop.eq_failed ordinary
      simp [report, bind_apply, first, attempt_failed ended fails, emit_ok _ _ _ _ h, reported,
        fails]
  · simp [report, bind_apply, first, attempt_ok ended, emit_ok _ _ _ _ h, reported]

theorem report_logs {l : Layer} (h : ∀ kind, l.plugin.logger ≠ .unusable kind) (router : Value)
    (settings : LogSettings) (w : World) : Logs (l.report router settings) w :=
  ⟨l.emitted router settings settings.before " start", l.reported router settings,
    l.emitted_shown _ _ _ _, l.reported_shown router settings,
    fun call v _ => report_eq h router settings call v⟩

theorem log_logs {l : Layer} (h : ∀ kind, l.plugin.logger ≠ .unusable kind) (w : World) :
    Logs l.log w := by
  let r := w.router l.router
  let settings := LogSettings.ofConfig (r.store.configuration l.plugin.name l.entry.key)
  refine (report_logs h r.name settings w).ite settings.enabled fun call v same => ?_
  have router : v.router l.router = r := congrArg (Cells.read · l.router) same
  simp only [log, bind_apply, router_apply, Ended.andThen_ok, router, Course.done_append]
  rfl

theorem log_lets {l : Layer} (h : ∀ kind, l.plugin.logger ≠ .unusable kind) (w : World) :
    ∃ w', LetsThrough l.log w w' := by
  obtain ⟨w', logged, passes⟩ := (log_logs h w).passes
  refine ⟨w', logged.alike, fun call => ?_⟩
  obtain ⟨after, logged', eq⟩ := passes call
  exact ⟨after, logged'.alike, eq⟩

theorem wrap_lets {l : Layer} (h : l.plugin.watches = true) (w : World) :
    (∃ w', LetsThrough l.wrap w w') ∨ Blocks l.wrap w := by
  have is : ∀ {around : Exec Value → Exec Value}, (∀ call, l.wrap call = around call) →
      l.wrap = around := funext
  cases hook : l.plugin.pluginClass.hook with
  | idle | refuse =>
    rw [is fun call => by rw [wrap, hook]]
    exact .inl ⟨w, .refl w⟩
  | count =>
    rw [is fun call => by rw [wrap, hook]]
    exact (count_passes Alike.refl l w fun _ => .setStore w l.router _).imp_right
      fun ⟨_, ends⟩ => .of_endsAs ends
  | trace =>
    rw [is fun call => by rw [wrap, hook]]
    exact .inl (trace_passes Alike.refl Alike.record l w)
  | gate => simp [Plugin.watches, hook] at h
  | log =>
    rw [is fun call => by rw [wrap, hook]]
    refine .inl (log_lets (fun kind unusable => ?_) w)
    simp [Plugin.watches, hook, unusable] at h

/-- A layer does what its plugin does, or nothing, or something else stands in the place of asking
whether the plugin is on. -/
theorem call_cases (l : Layer) (w : World) :
    (∀ call, l.call call w = l.wrap call w) ∨ (∀ call, l.call call w = call w) ∨
      ∃ s, ∀ call, l.call call w = ⟨.done, .error s, w⟩ := by
  obtain asks | ⟨s, stops⟩ := l.expectStore_cases "is_plugin_enabled" 2 w
  · have eq : ∀ call, l.call call w =
        (if (w.router l.router).store.enabled l.plugin.name l.entry.key then l.wrap call
          else call) w := fun call => by simp [Layer.call, bind_apply, asks]
    cases enabled : (w.router l.router).store.enabled l.plugin.name l.entry.key with
    | false => exact .inr (.inl fun call => by rw [eq, enabled]; rfl)
    | true => exact .inl fun call => by rw [eq, enabled]; rfl
  · exact .inr (.inr ⟨s, fun call => by simp [Layer.call, bind_apply, stops]⟩)

/-- A layer of a plugin that watches lets a call through, or it fails in its place. -/
theorem call_lets {l : Layer} (h : l.plugin.watches = true) (w : World) :
    (∃ w', LetsThrough l.call w w') ∨ Blocks l.call w := by
  obtain eq | eq | ⟨s, stops⟩ := l.call_cases w
  · obtain ⟨w', lets⟩ | blocks := wrap_lets h w
    · exact .inl ⟨w', lets.congr eq⟩
    · exact .inr (blocks.congr eq)
  · exact .inl ⟨w, (LetsThrough.refl w).congr eq⟩
  · exact .inr ⟨s, fun call => ⟨w, .refl w, stops call⟩⟩

end Layer

/-- Layers of plugins that watch let a call through, or one of them fails in its place. -/
theorem throughLayers_lets (r : RouterRef) (e : Entry) (h : ∀ p ∈ e.layers, p.watches = true)
    (w : World) :
    (∃ w', LetsThrough (throughLayers r e) w w') ∨ Blocks (throughLayers r e) w := by
  unfold throughLayers
  generalize e.layers = layers at h
  induction layers generalizing w with
  | nil => exact .inl ⟨w, .refl w⟩
  | cons p layers ih =>
    obtain ⟨w₁, lets⟩ | blocks := Layer.call_lets (l := ⟨r, p, e.name⟩) (h p (by simp)) w
    · obtain ⟨w₂, lets'⟩ | blocks := ih w₁ fun q hq => h q (by simp [hq])
      · exact .inl ⟨w₂, lets.comp lets'⟩
      · exact .inr (lets.comp_blocks blocks)
    · exact .inr (blocks.comp _)

end Dispatch
end HandlerChains
