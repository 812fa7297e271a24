import HandlerChains.Perform

/-!
# What has nothing to do with routers

Most of what actions and predicates do is about a context. An execution is apart from the routers
and the log if it does the same among any routers and with any log, and leaves both as they are.
Looking actions up is, and so are actions that perform no commands.
-/

namespace HandlerChains

def World.among (w : World) (routers : Cells Router) (log : List LogLine) : World :=
  { w with routers, log }

/-- An execution that does the same among any routers and with any log, and leaves them alone. -/
def Exec.Apart {α : Type} (x : Exec α) : Prop :=
  ∀ w routers log, (x (w.among routers log)).result = (x w).result ∧
    (x (w.among routers log)).world = (x w).world.among routers log

namespace Exec.Apart

variable {α β : Type}

theorem unchanged {x : Exec α} (h : Apart x) (w : World) :
    (x w).world = (x w).world.among w.routers w.log :=
  (h w w.routers w.log).2

theorem pure (a : α) : Apart (Pure.pure a : Exec α) := fun _ _ _ => ⟨rfl, rfl⟩

theorem stop (s : Stop) : Apart (Exec.stop s : Exec α) := fun _ _ _ => ⟨rfl, rfl⟩

theorem fail (f : Failure) : Apart (Exec.fail f : Exec α) := stop _

theorem lift (x : Except Failure α) : Apart (Exec.lift x) := by
  cases x with
  | ok a => exact pure a
  | error f => exact fail f

theorem bind {x : Exec α} {f : α → Exec β} (hx : Apart x) (hf : ∀ a, Apart (f a)) :
    Apart (x >>= f) := by
  intro w routers log
  obtain ⟨result, world⟩ := hx w routers log
  rw [bind_apply, bind_apply]
  generalize x (w.among routers log) = e' at result world ⊢
  generalize x w = e at result world ⊢
  obtain ⟨course', _, _⟩ := e'
  obtain ⟨course, s | a, w'⟩ := e
  all_goals
    cases result
    cases world
  · exact ⟨rfl, rfl⟩
  · exact hf a w' routers log

theorem map (f : α → β) {x : Exec α} (hx : Apart x) : Apart (f <$> x) :=
  bind hx fun a => pure (f a)

theorem forM {f : α → Exec Unit} {l : List α} (hf : ∀ a ∈ l, Apart (f a)) : Apart (l.forM f) := by
  induction l with
  | nil => exact pure ()
  | cons a l ih =>
    exact bind (hf a List.mem_cons_self) fun _ => ih fun b hb => hf b (List.mem_cons_of_mem a hb)

theorem bind_get {f : World → Exec β}
    (same : ∀ w routers log, f (w.among routers log) = f w) (hf : ∀ w, Apart (f w)) :
    Apart (get >>= f) := by
  intro w routers log
  rw [bind_apply, bind_apply, get_apply, get_apply, Ended.andThen_ok, Ended.andThen_ok, same]
  exact hf w w routers log

theorem context (c : ContextRef) : Apart (Exec.context c) := fun _ _ _ => ⟨rfl, rfl⟩

theorem changeContext (c : ContextRef) (f : Context → Context) : Apart (Exec.changeContext c f) :=
  fun _ _ _ => ⟨rfl, rfl⟩

theorem record (e : Event) : Apart (Exec.record e) := fun _ _ _ => ⟨rfl, rfl⟩

theorem offerMethod (c : ContextRef) (v : Value) : Apart (Exec.offerMethod c v) :=
  bind (context c) fun _ => bind (lift _) fun _ => changeContext c _

theorem named (table : Assoc α) (name : String) : Apart (Exec.named table name) := by
  unfold Exec.named
  split
  · exact pure _
  · exact stop _

/-! ## Looking actions up -/

theorem findInModules (name : String) : Apart (Exec.findInModules name) := by
  have recorded : ∀ (l : List String) (w : World) routers log,
      l.foldl (fun w module => w.record (.executed module)) (w.among routers log) =
        (l.foldl (fun w module => w.record (.executed module)) w).among routers log := by
    intro l
    induction l with
    | nil => exact fun _ _ _ => rfl
    | cons module l ih => exact fun w routers log => ih (w.record (.executed module)) routers log
  refine bind (fun w routers log => ⟨rfl, ?_⟩) fun _ => lift _
  exact recorded _ { w with modules := _ } routers log

theorem findIn (resolver : Resolver) (name : String) : Apart (Exec.findIn resolver name) := by
  cases resolver with
  | plain v => exact fail _
  | modules => exact findInModules name
  | registry r => exact bind_get (fun _ _ _ => rfl) fun w => map _ (lift _)
  | table rows =>
    unfold Exec.findIn
    dsimp only
    split
    · exact pure _
    · exact fail _

theorem resolve (c : ContextRef) (a : Action) : Apart (Exec.resolve c a) := by
  cases a with
  | callable f => exact pure _
  | named name => exact bind (context c) fun ctx => bind (lift _) fun _ => findIn _ _

/-! ## Actions and predicates -/

theorem buildTarget (a : ActionSpec) : Apart (Exec.buildTarget a) := by
  have serial : Apart newSerial := fun _ _ _ => ⟨rfl, rfl⟩
  have callable : ∀ label ownName body result,
      Apart (newCallable label ownName body result) :=
    fun _ _ _ _ => bind serial fun _ => pure _
  cases a with
  | function label body result => exact map _ (callable _ _ _ _)
  | object label body result => exact map _ (callable _ _ _ _)
  | known id => exact bind_get (fun _ _ _ => rfl) fun w => named _ _
  | named name => exact pure _
  | plain v => exact pure _

theorem buildRows (rows : List (String × ActionSpec)) : Apart (Exec.buildRows rows) := by
  induction rows with
  | nil => exact pure _
  | cons row rows ih => exact bind (buildTarget row.2) fun _ => bind ih fun _ => pure _

theorem assign (ctx : Context) (a : Assignment) : Apart (Exec.assign ctx a) := by
  cases a with
  | config v =>
    have built : Apart (Exec.buildConfig v) := by
      cases v with
      | site settings => exact bind (lift _) fun _ => pure _
      | object attributes => exact pure _
      | plain v => cases v <;> exact pure _
    exact bind built fun _ => pure _
  | resolver v =>
    have built : Apart (Exec.buildResolver v) := by
      cases v with
      | modules => exact pure _
      | registry id =>
        exact bind_get (fun _ _ _ => rfl) fun w => bind (named _ _) fun _ => pure _
      | table rows => exact bind (buildRows rows) fun _ => pure _
      | plain v => exact pure _
    exact bind built fun _ => pure _
  | unknown name v => exact fail _
  | _ => exact pure _

theorem writeTo (c : ContextRef) (v : Value) : Apart (Exec.writeTo c v) :=
  bind (context c) fun _ => bind (lift _) fun _ => changeContext c _

theorem keyed (table : Assoc α) (name : String) : Apart (Exec.keyed table name) := by
  unfold Exec.keyed
  split
  · exact pure _
  · exact fail _

/-- Every instruction but that to perform a command is about the context. -/
theorem obey (act : Command → Exec Reply) (c : ContextRef) {i : Instruction}
    (alone : ∀ command, i ≠ .perform command) : Apart (Exec.obey act c i) := by
  cases i with
  | fail f => exact fail f
  | failAgain =>
    refine bind (context c) fun ctx => ?_
    cases ctx.failure with
    | none => exact fail _
    | some f => exact fail f
  | merge ps => exact changeContext c _
  | setParameters ps => exact changeContext c _
  | assign a =>
    exact bind (context c) fun _ => bind (assign _ a) fun _ => changeContext c _
  | offerMethod method => exact offerMethod c method
  | write v => exact writeTo c v
  | require field => exact bind (context c) fun _ => bind (lift _) fun _ => record _
  | perform command => exact absurd rfl (alone command)
  | setStatus status => exact changeContext c _
  | writeMethods lead => exact bind (context c) fun _ => bind (lift _) fun _ => writeTo c _
  | writeFailure => exact bind (context c) fun _ => writeTo c _
  | writeFrom texts parameter =>
    refine bind (context c) fun ctx => ?_
    cases ctx.parameters with
    | none => exact fail _
    | some ps => exact bind (keyed ps _) fun _ => bind (keyed texts _) fun _ => writeTo c _

theorem callAction (act : Command → Exec Reply) {f : Callable} (c : ContextRef)
    (alone : ∀ command, .perform command ∉ f.body) : Apart (Exec.callAction act f c) := by
  refine bind (context c) fun _ => bind (lift _) fun _ => bind (record _) fun _ => ?_
  refine bind (forM fun i hi => obey act c fun command same => alone command ?_) fun _ => ?_
  · rwa [← same]
  · exact bind (record _) fun _ => pure _

theorem askPredicate (p : Predicate) (c : ContextRef) : Apart (Exec.askPredicate p c) :=
  bind (context c) fun _ => bind (record _) fun _ => lift _

end Exec.Apart
end HandlerChains
