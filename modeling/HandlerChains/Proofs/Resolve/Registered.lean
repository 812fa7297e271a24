import HandlerChains.Example.Routers
import HandlerChains.Proofs.Text.Trimming

/-!
# Actions by their registered names

A registry keeps a callable under its name without the dots at both ends. What is looked up is the
name of an action without the blanks at its ends, behind the name space, and only the dots in front
of all that are dropped. So the two agree for names with neither blanks at their ends nor a dot at
the last one, and a handler that has such a name does what a handler that has the callable does.
-/

namespace HandlerChains

open Text

/-- A text that does not end with a dot, unless it consists of dots. -/
def Undotted (s : String) : Prop := trimEnd isDot s = s ∨ trim isDot s = ""

theorem Undotted.trimStart_eq {s : String} (ends : Undotted s) :
    trimStart isDot s = trim isDot s :=
  trimStart_eq_trim_iff.2 ends

theorem isBlank_of_isDot (c : Char) (dot : isDot c = true) : isBlank c = false := by
  obtain rfl : c = '.' := by simpa [isDot] using dot
  decide

/-- A name that is not blank is looked up as it is registered exactly if it has no blanks at its
ends, and no dot at the last one unless it consists of dots. -/
theorem trimStart_strip_iff {n : String} (some : strip n ≠ "") :
    trimStart isDot (strip n) = trim isDot n ↔ strip n = n ∧ Undotted n := by
  have core : trimBoth isBlank n.toList ≠ [] := by
    rwa [strip, trim, Ne, String.ofList_eq_empty_iff] at some
  rw [trimStart, trim, String.ofList_inj, strip, trim, String.toList_ofList,
    trimmed_iff isBlank_of_isDot core, Undotted, ← String.toList_inj, String.toList_ofList,
    ← String.toList_inj, trimEnd, String.toList_ofList, trim, String.ofList_eq_empty_iff]
  rfl

theorem trim_wrapNameSpace (v : String) : trim isDot (wrapNameSpace v) = trim isDot v := by
  unfold wrapNameSpace
  by_cases none : trim isDot v = ""
  · simp only [none, if_true]
    decide
  · have some : trimBoth isDot v.toList ≠ [] := by
      rwa [trim, String.ofList_eq_empty_iff] at none
    simp only [if_neg none]
    change String.ofList (trimBoth isDot ("." ++ trim isDot v ++ ".").toList) = _
    rw [show ("." ++ trim isDot v ++ ".").toList = '.' :: trimBoth isDot v.toList ++ ['.'] by
      simp [trim], trimBoth_between rfl some (trimBoth_head some) (trimBoth_last some)]
    rfl

theorem wrapNameSpace_congr {u v : String} (same : trim isDot u = trim isDot v) :
    wrapNameSpace u = wrapNameSpace v := by
  unfold wrapNameSpace
  rw [same]

theorem fullName_wrapNameSpace (v name : String) :
    fullName (.text (wrapNameSpace v)) name =
      .ok (trimStart isDot (wrapNameSpace v ++ name)) := by
  have once := wrapNameSpace_congr (trim_wrapNameSpace v)
  change Except.ok (trimStart isDot (wrapNameSpace (wrapNameSpace v) ++ name)) = _
  rw [once]

theorem trimStart_wrapNameSpace {v : String} (ends : Undotted v) (name : String) :
    trimStart isDot (wrapNameSpace v ++ name) = trimStart isDot (v ++ "." ++ name) := by
  have dot : trimStart isDot "." = "" := by decide
  have start := ends.trimStart_eq
  rw [show v ++ "." ++ name = v ++ ("." ++ name) from String.append_assoc, trimStart_append isDot v,
    start]
  unfold wrapNameSpace
  dsimp only
  by_cases none : trim isDot v = ""
  · rw [if_pos none, if_pos none]
  · rw [if_neg none, if_neg none, String.append_assoc, String.append_assoc, trimStart_append,
      if_pos dot, trimStart_append, ← start, trimStart_trimStart, start, if_neg none]

namespace Registry

variable {t t' : Registry} {f : Callable} {n : String}

theorem eq_put_of_register (some : n ≠ "")
    (registered : register t (.callable f) (.text n) = .ok t') :
    t' = Assoc.put t (trim isDot n) f := by
  have named : key f (.text n) = .ok (trim isDot n) := by
    unfold key
    rw [if_pos (by simpa [Value.isTruthy] using some)]
  unfold register at registered
  dsimp only at registered
  rw [named] at registered
  simp only [bind, Except.bind, pure, Except.pure] at registered
  split at registered
  · split at registered
    · exact (Except.ok.inj registered).symm
    · cases registered
  · exact (Except.ok.inj registered).symm

theorem resolve_apply (t : Registry) (name : String) :
    resolve t (.text name) = match Assoc.get? t name with
      | some f => .ok f
      | none => .error (.unknownAction (.text name)) :=
  rfl

theorem resolve_text {name : String} (found : Assoc.get? t name = some f) :
    resolve t (.text name) = .ok f := by
  rw [resolve_apply, found]

theorem resolve_of_none {name : String} (absent : Assoc.get? t name = none) :
    resolve t (.text name) = .error (.unknownAction (.text name)) := by
  rw [resolve_apply, absent]

end Registry

theorem Exec.lift_world {α : Type} (x : Except Failure α) (w : World) : (lift x w).world = w := by
  cases x <;> rfl

namespace Handler

def action? : Handler → Option Action
  | callback a | always a | badMethod a | conditional _ a | route _ a | endpoint _ _ a => some a
  | _ => none

def withAction (b : Action) : Handler → Handler
  | callback _ => callback b
  | always _ => always b
  | badMethod _ => badMethod b
  | conditional p _ => conditional p b
  | route p _ => route p b
  | endpoint method p _ => endpoint method p b
  | h => h

end Handler

namespace Dispatch

open Exec

/-- Whether two executions end with the same, and leave the same world. -/
def EndAlike {α : Type} (x y : Exec α) (w : World) : Prop :=
  (x w).result = (y w).result ∧ (x w).world = (y w).world

namespace EndAlike

variable {α β : Type} {x y : Exec α} {f g : α → Exec β} {w : World}

theorem bind (first : EndAlike x y w)
    (second : ∀ a, (x w).result = .ok a → EndAlike (f a) (g a) (x w).world) :
    EndAlike (x >>= f) (y >>= g) w := by
  unfold EndAlike at first second ⊢
  rw [bind_apply, bind_apply]
  rcases eq : x w with ⟨s, stop | a, v⟩ <;> rcases eq' : y w with ⟨t, stop' | b, v'⟩ <;>
    rw [eq, eq'] at first <;> obtain ⟨same, rfl⟩ := first <;> cases same
  · exact ⟨rfl, rfl⟩
  · rw [eq] at second
    exact second a rfl

theorem refl (x : Exec α) (w : World) : EndAlike x x w := ⟨rfl, rfl⟩

theorem after (second : ∀ a, (x w).result = .ok a → EndAlike (f a) (g a) (x w).world) :
    EndAlike (x >>= f) (x >>= g) w :=
  bind (refl x w) second

theorem within {x y : Exec Value} (alike : EndAlike x y w) (s t : Stage) :
    EndAlike (Exec.within s x) (Exec.within t y) w :=
  alike

end EndAlike

theorem capture_world (p : Pattern) (c : ContextRef) (w : World) : (capture p c w).world = w := by
  cases route : (w.context c).demandRoute <;> simp [capture, bind_apply, Exec.lift, route]

/-- Whether an action is the name of a callable in the registry of a context. -/
def Stands (c : ContextRef) (a : Action) (f : Callable) (w : World) : Prop :=
  ∃ name r key, a = .named name ∧ (w.context c).resolver = .registry r ∧
    fullName (w.context c).nameSpace name = .ok key ∧ Assoc.get? (w.registry r) key = some f

namespace Stands

variable {c : ContextRef} {a : Action} {f : Callable} {w : World}
variable (calls : Calls) (inner : RouterRef → ContextRef → Exec Value)

theorem resolve (stands : Stands c a f w) :
    Exec.resolve c a w = ⟨.done, .ok (.ofCallable f), w⟩ := by
  obtain ⟨name, r, key, rfl, resolver, named, found⟩ := stands
  simp [Exec.resolve, bind_apply, named, resolver, Exec.lift, findIn, map_apply,
    Registry.resolve_text found, Except.map]

theorem trigger (stands : Stands c a f w) :
    Dispatch.trigger calls a c w = Exec.within (.action a) (calls.act f c) w := by
  unfold Dispatch.trigger
  rw [bind_apply, stands.resolve]
  rfl

theorem setContext (stands : Stands c a f w) {ctx : Context}
    (resolver : ctx.resolver = (w.context c).resolver)
    (nameSpace : ctx.nameSpace = (w.context c).nameSpace) :
    Stands c a f (w.setContext c ctx) := by
  obtain ⟨name, r, key, rfl, resolves, named, found⟩ := stands
  refine ⟨name, r, key, rfl, ?_, ?_, found⟩
  · rw [World.context_setContext_self, resolver, resolves]
  · rw [World.context_setContext_self, nameSpace, named]

theorem serve (stands : Stands c a f w) :
    EndAlike (Dispatch.serve calls a c) (Dispatch.serve calls (.callable f) c) w := by
  unfold Dispatch.serve
  refine .bind ?_ fun _ _ => .refl _ _
  unfold EndAlike
  rw [stands.trigger]
  exact ⟨rfl, rfl⟩

theorem mergeParameters (stands : Stands c a f w) (captured : Assoc Value) :
    Stands c a f (w.setContext c ((w.context c).mergeParameters captured)) :=
  stands.setContext rfl rfl

/-- A handler that has the name of a callable does what a handler that has the callable does. A
predicate that is asked before may not take the name away. -/
theorem handle (stands : Stands c a f w) {h : Handler} (acts : h.action? = some a)
    (asks : ∀ p, h = .conditional p a → Stands c a f (ask calls p c w).world) :
    EndAlike (Dispatch.handle calls inner h c)
      (Dispatch.handle calls inner (h.withAction (.callable f)) c) w := by
  cases h with
  | callback b =>
    cases acts
    refine .within (.bind ?_ fun _ _ => .refl _ _) _ _
    unfold EndAlike
    rw [stands.trigger]
    exact ⟨rfl, rfl⟩
  | always b =>
    cases acts
    exact .within (stands.serve calls) _ _
  | badMethod b =>
    cases acts
    refine .within (.after fun ctx _ => ?_) _ _
    change EndAlike (if ctx.methods.isTruthy then _ else _)
      (if ctx.methods.isTruthy then _ else _) w
    split
    · exact stands.serve calls
    · exact .refl _ _
  | conditional p b =>
    cases acts
    refine .within (.after fun v _ => ?_) _ _
    split
    · exact (asks p rfl).serve calls
    · exact .refl _ _
  | route p b =>
    cases acts
    refine .within (.after fun captured _ => ?_) _ _
    rw [capture_world]
    cases captured with
    | none => exact .refl _ _
    | some captured => exact .after fun _ _ => (stands.mergeParameters captured).serve calls
  | endpoint method p b =>
    cases acts
    refine .within (.after fun captured _ => ?_) _ _
    rw [capture_world]
    cases captured with
    | none => exact .refl _ _
    | some captured =>
      refine .after fun ctx _ => .after fun asked _ => ?_
      rw [lift_world]
      split
      · exact .after fun _ _ => (stands.mergeParameters captured).serve calls
      · exact .refl _ _
  | _ => cases acts

end Stands

/-- Whether an action does what a callable does: it calls it, and handlers that have either of them
do the same, as long as their predicates leave the names of the registry and the context. -/
def Acts (calls : Calls) (inner : RouterRef → ContextRef → Exec Value) (c : ContextRef) (a : Action)
    (f : Callable) (w : World) : Prop :=
  trigger calls a c w = within (.action a) (calls.act f c) w ∧
    ∀ h : Handler, h.action? = some a →
      (∀ p, h = .conditional p a → Stands c a f (ask calls p c w).world) →
      EndAlike (handle calls inner h c) (handle calls inner (h.withAction (.callable f)) c) w

theorem Stands.acts {c : ContextRef} {a : Action} {f : Callable} {w : World}
    (stands : Stands c a f w) (calls : Calls) (inner : RouterRef → ContextRef → Exec Value) :
    Acts calls inner c a f w :=
  ⟨stands.trigger calls, fun _ acts asks => stands.handle calls inner acts asks⟩

theorem ofTarget_text {n : String} (some : strip n ≠ "") :
    Action.ofTarget (.plain (.text n)) = .ok (.named (strip n)) := by
  unfold Action.ofTarget
  dsimp only
  rw [if_neg some]

/-- A callable that was registered under a name is called by handlers that have the name, where the
registry of the context is that one: without a name space by the name itself, and in a name space
by what stands behind the name space and a dot. The name has to be written as it is looked up. -/
theorem acts_of_register (calls : Calls) (inner : RouterRef → ContextRef → Exec Value)
    {c : ContextRef} {w : World} {r : Nat} (resolver : (w.context c).resolver = .registry r)
    {t : Registry} {f : Callable} :
    (∀ n, Registry.register t (.callable f) (.text n) = .ok (w.registry r) →
      (w.context c).nameSpace = .null → strip n ≠ "" → strip n = n → Undotted n →
      ∃ a, Action.ofTarget (.plain (.text n)) = .ok a ∧ Acts calls inner c a f w) ∧
    (∀ v n, Registry.register t (.callable f) (.text (v ++ "." ++ n)) = .ok (w.registry r) →
      Undotted v → strip n ≠ "" → strip n = n → trimEnd isDot n = n →
      ∃ a nameSpace, Action.ofTarget (.plain (.text n)) = .ok a ∧
        Handler.nameSpaceOf (.text v) = .ok nameSpace ∧
        let named := handle calls inner (.setNamespace nameSpace) c w
        named.result = .ok (.bool false) ∧ Acts calls inner c a f named.world) := by
  constructor
  · intro n registered global some bare ends
    refine ⟨_, ofTarget_text some, Stands.acts ?_ calls inner⟩
    refine ⟨strip n, r, trim isDot n, rfl, resolver, ?_, ?_⟩
    · rw [global, ← (trimStart_strip_iff some).2 ⟨bare, ends⟩]
      rfl
    · rw [Registry.eq_put_of_register (bare ▸ some) registered, Assoc.get?_put_self]
  · intro v n registered space some bare ends
    have full : v ++ "." ++ n ≠ "" := by simp
    have ends' : Undotted (v ++ "." ++ n) := .inl (trimEnd_append (bare ▸ some) ends)
    refine ⟨_, _, ofTarget_text some, rfl, rfl, Stands.acts ?_ calls inner⟩
    refine ⟨strip n, r, trim isDot (v ++ "." ++ n), rfl, ?_, ?_, ?_⟩
    · change ((w.setContext c _).context c).resolver = _
      rw [World.context_setContext_self]
      exact resolver
    · change fullName ((w.setContext c _).context c).nameSpace (strip n) = _
      rw [World.context_setContext_self, bare, ← ends'.trimStart_eq,
        ← trimStart_wrapNameSpace space]
      exact fullName_wrapNameSpace v n
    · change Assoc.get? (w.registry r) _ = _
      rw [Registry.eq_put_of_register full registered, Assoc.get?_put_self]

/-- Where nothing else is registered, a name that is written otherwise is not found. -/
theorem trigger_of_register (calls : Calls) {c : ContextRef} {w : World} {r : Nat}
    (resolver : (w.context c).resolver = .registry r) (global : (w.context c).nameSpace = .null)
    {f : Callable} {n : String} (some : strip n ≠ "")
    (registered : Registry.register [] (.callable f) (.text n) = .ok (w.registry r))
    (other : ¬ (strip n = n ∧ Undotted n)) :
    trigger calls (.named (strip n)) c w =
      ⟨.done, .error (.failed (.unknownAction (.text (trimStart isDot (strip n))))), w⟩ := by
  have given : n ≠ "" := by
    rintro rfl
    exact some (by decide)
  have absent : Assoc.get? (w.registry r) (trimStart isDot (strip n)) = none := by
    rw [Registry.eq_put_of_register given registered,
      Assoc.get?_put_of_ne _ _ (mt (trimStart_strip_iff some).1 other)]
    rfl
  have named : fullName .null (strip n) = .ok (trimStart isDot (strip n)) := rfl
  simp [trigger, Exec.resolve, bind_apply, global, named, resolver, Exec.lift, findIn, map_apply,
    Registry.resolve_of_none absent, Except.map]

def indexView : Callable := ⟨0, "index", some "index", [], .null⟩

def viewsWorld (registry : Registry) : World :=
  { Small.world [] { resolver := .registry 0 } with registries := [registry] }

/-- The view is called by its whole name, and by the last part of it in the name space. -/
theorem indexView_acts :
    let w := viewsWorld [("shop.index", indexView)]
    let stay : RouterRef → ContextRef → Exec Value := fun _ _ => pure (.bool false)
    let named := handle Small.calls stay (.setNamespace ".shop.") 0 w
    Acts Small.calls stay 0 (.named "shop.index") indexView w ∧
      Acts Small.calls stay 0 (.named "index") indexView named.world := by
  intro w stay named
  have registered : Registry.register [] (.callable indexView) (.text "shop.index") =
      .ok (w.registry 0) := by cbv
  obtain ⟨whole, part⟩ := acts_of_register Small.calls stay (w := w) (c := 0) (r := 0) rfl
    (t := []) (f := indexView)
  constructor
  · obtain ⟨a, made, acts⟩ := whole "shop.index" registered rfl (by decide) (by decide)
      (.inl (by decide))
    cases made.symm.trans (ofTarget_text (n := "shop.index") (by decide))
    exact acts
  · obtain ⟨a, nameSpace, made, wrapped, -, acts⟩ := part "shop" "index" registered
      (.inl (by decide)) (by decide) (by decide) (by decide)
    cases made.symm.trans (ofTarget_text (n := "index") (by decide))
    cases wrapped
    exact acts

/-- With a dot at its end the view is registered, but not found. -/
theorem indexView_unknown :
    let w := viewsWorld [("index", indexView)]
    Registry.register [] (.callable indexView) (.text "index.") = .ok (w.registry 0) ∧
      (w.context 0).resolver = .registry 0 ∧ (w.context 0).nameSpace = .null ∧
      Action.ofTarget (.plain (.text "index.")) = .ok (.named "index.") ∧
      (handle Small.calls (fun _ _ => pure .null) (.always (.named "index.")) 0 w).result =
        .error (.failed (.unknownAction (.text "index."))) := by
  refine ⟨?_, ?_, ?_, ?_, ?_⟩ <;> cbv

end Dispatch
end HandlerChains
