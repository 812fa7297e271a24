import HandlerChains.Course

/-!
# Executions

A step of a run reads and changes the world, and ends with a value or stops. It stops with a
failure, or because a command names something that does not exist, or because calls are nested
deeper than was allowed. `attempt` catches ordinary failures only; `finishing` restores whatever the
end was. What a step went through is its course; `within` makes it one stage.
-/

namespace HandlerChains

/-- How an execution ended, and what it went through. -/
structure Ended (α : Type) where
  course : Course
  result : Except Stop α
  world : World

def Exec (α : Type) : Type := World → Ended α

/-- What comes of an execution if another one follows it wherever it ended with a value. -/
def Ended.andThen {α β : Type} (e : Ended α) (f : α → Exec β) : Ended β :=
  match e with
  | ⟨course, .ok a, w⟩ =>
    let next := f a w
    { next with course := course ++ next.course }
  | ⟨course, .error stop, w⟩ => ⟨course, .error stop, w⟩

@[simp] theorem Ended.andThen_ok {α β : Type} (course : Course) (a : α) (w : World)
    (f : α → Exec β) :
    Ended.andThen ⟨course, .ok a, w⟩ f =
      ⟨course ++ (f a w).course, (f a w).result, (f a w).world⟩ := rfl

@[simp] theorem Ended.andThen_error {α β : Type} (course : Course) (stop : Stop) (w : World)
    (f : α → Exec β) :
    Ended.andThen ⟨course, .error stop, w⟩ f = ⟨course, .error stop, w⟩ := rfl

namespace Exec

variable {α β : Type}

instance : Monad Exec where
  pure a := fun w => ⟨.done, .ok a, w⟩
  bind x f := fun w => (x w).andThen f

instance : MonadStateOf World Exec where
  get := fun w => ⟨.done, .ok w, w⟩
  set w := fun _ => ⟨.done, .ok (), w⟩
  modifyGet f := fun w => ⟨.done, .ok (f w).1, (f w).2⟩

def stop (s : Stop) : Exec α := fun w => ⟨.done, .error s, w⟩

def fail (f : Failure) : Exec α := stop (.failed f)

def lift : Except Failure α → Exec α
  | .ok a => pure a
  | .error f => fail f

/-- The world after a step that may keep its changes although it fails. -/
def settle (step : World → Except Failure α × World) : Exec α := do
  let (result, w) := step (← get)
  set w
  lift result

/-- The result of a step, with an ordinary failure as a value. -/
def attempt (x : Exec α) : Exec (Except Failure α) := fun w =>
  match x w with
  | ⟨course, .ok a, w⟩ => ⟨course, .ok (.ok a), w⟩
  | ⟨course, .error (.failed f), w⟩ =>
    if f.isOrdinary then ⟨course, .ok (.error f), w⟩ else ⟨course, .error (.failed f), w⟩
  | ⟨course, .error s, w⟩ => ⟨course, .error s, w⟩

/-- The result of a step, with any failure as a value. -/
def outcome (x : Exec α) : Exec (Except Failure α) := fun w =>
  match x w with
  | ⟨course, .ok a, w⟩ => ⟨course, .ok (.ok a), w⟩
  | ⟨course, .error (.failed f), w⟩ => ⟨course, .ok (.error f), w⟩
  | ⟨course, .error s, w⟩ => ⟨course, .error s, w⟩

/-- A step followed by a change of the world that is made however the step ends. -/
def finishing (x : Exec α) (restore : Option α → World → World) : Exec α := fun w =>
  match x w with
  | ⟨course, .ok a, w⟩ => ⟨course, .ok a, restore (some a) w⟩
  | ⟨course, .error s, w⟩ => ⟨course, .error s, restore none w⟩

def within (s : Stage) (x : Exec Value) : Exec Value := fun w =>
  let e := x w
  { e with course := .step ⟨s, w, e.result, e.world⟩ e.course .done }

def context (c : ContextRef) : Exec Context := return (← get).context c

def router (r : RouterRef) : Exec Router := return (← get).router r

def changeContext (c : ContextRef) (f : Context → Context) : Exec Unit :=
  modify fun w => w.setContext c (f (w.context c))

def offerMethod (c : ContextRef) (method : Value) : Exec Unit := do
  let ctx ← lift ((← context c).offerMethod method)
  changeContext c fun _ => ctx

def record (e : Event) : Exec Unit := modify fun w => w.record e

def logLine (sink : Sink) (text : String) : Exec Unit := modify fun w => w.logLine ⟨sink, text⟩

def named (table : Assoc α) (name : String) : Exec α :=
  match Assoc.get? table name with
  | some a => pure a
  | none => stop (.undefined name)

@[simp] theorem pure_apply (a : α) (w : World) : (pure a : Exec α) w = ⟨.done, .ok a, w⟩ := rfl

@[simp] theorem stop_apply (s : Stop) (w : World) :
    (stop s : Exec α) w = ⟨.done, .error s, w⟩ := rfl

@[simp] theorem fail_apply (f : Failure) (w : World) :
    (fail f : Exec α) w = ⟨.done, .error (.failed f), w⟩ := rfl

theorem bind_apply (x : Exec α) (f : α → Exec β) (w : World) :
    (x >>= f) w = (x w).andThen f := rfl

theorem map_apply (f : α → β) (x : Exec α) (w : World) :
    (f <$> x) w = ⟨(x w).course, (x w).result.map f, (x w).world⟩ := by
  change (x w).andThen (fun a => pure (f a)) = _
  rcases x w with ⟨course, stop | a, w'⟩
  · rfl
  · simp [Except.map]

@[simp] theorem get_apply (w : World) : (get : Exec World) w = ⟨.done, .ok w, w⟩ := rfl

@[simp] theorem set_apply (w w' : World) : (set w' : Exec Unit) w = ⟨.done, .ok (), w'⟩ := rfl

@[simp] theorem modify_apply (f : World → World) (w : World) :
    (modify f : Exec Unit) w = ⟨.done, .ok (), f w⟩ := rfl

@[simp] theorem within_apply (s : Stage) (x : Exec Value) (w : World) :
    within s x w =
      ⟨.step ⟨s, w, (x w).result, (x w).world⟩ (x w).course .done, (x w).result, (x w).world⟩ := rfl

theorem finishing_apply (x : Exec α) (restore : Option α → World → World) (w : World) :
    finishing x restore w =
      ⟨(x w).course, (x w).result, restore (x w).result.toOption (x w).world⟩ := by
  unfold finishing
  rcases x w with ⟨course, _ | _, w⟩ <;> rfl

@[simp] theorem attempt_course (x : Exec α) (w : World) : (attempt x w).course = (x w).course := by
  unfold attempt
  rcases x w with ⟨course, (f | name | _) | a, w⟩ <;> try rfl
  by_cases h : f.isOrdinary = true <;> simp [h]

@[simp] theorem attempt_world (x : Exec α) (w : World) : (attempt x w).world = (x w).world := by
  unfold attempt
  rcases x w with ⟨course, (f | name | _) | a, w⟩ <;> try rfl
  by_cases h : f.isOrdinary = true <;> simp [h]

theorem attempt_ok {x : Exec α} {w w' : World} {course : Course} {a : α}
    (h : x w = ⟨course, .ok a, w'⟩) : attempt x w = ⟨course, .ok (.ok a), w'⟩ := by
  simp [attempt, h]

theorem attempt_failed {x : Exec α} {w w' : World} {course : Course} {f : Failure}
    (h : x w = ⟨course, .error (.failed f), w'⟩) (hf : f.isOrdinary = true) :
    attempt x w = ⟨course, .ok (.error f), w'⟩ := by
  simp [attempt, h, hf]

theorem attempt_stopped {x : Exec α} {w w' : World} {course : Course} {s : Stop}
    (h : x w = ⟨course, .error s, w'⟩) (hs : s.isOrdinary = false) :
    attempt x w = ⟨course, .error s, w'⟩ := by
  cases s with
  | failed f => simp [attempt, h, show f.isOrdinary = false from hs]
  | undefined name => simp [attempt, h]
  | exhausted => simp [attempt, h]

@[simp] theorem context_apply (c : ContextRef) (w : World) :
    context c w = ⟨.done, .ok (w.context c), w⟩ := rfl

@[simp] theorem router_apply (r : RouterRef) (w : World) :
    router r w = ⟨.done, .ok (w.router r), w⟩ := rfl

@[simp] theorem changeContext_apply (c : ContextRef) (f : Context → Context) (w : World) :
    changeContext c f w = ⟨.done, .ok (), w.setContext c (f (w.context c))⟩ := rfl

@[simp] theorem record_apply (e : Event) (w : World) :
    record e w = ⟨.done, .ok (), w.record e⟩ := rfl

@[simp] theorem logLine_apply (sink : Sink) (text : String) (w : World) :
    logLine sink text w = ⟨.done, .ok (), w.logLine ⟨sink, text⟩⟩ := rfl

end Exec
end HandlerChains
