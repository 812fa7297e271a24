import HandlerChains.Example.Routers
import HandlerChains.Proofs.Router.FailedRegistration
import Mathlib.Data.List.Perm.Basic

/-!
# Names of registered entries

Whatever registration calls are made, no two entries of a router have the same name, and each chain
lists the entries in the order in which they were registered. A name that is given is refused
exactly if it is taken; without one, an entry has the base name of its handler, or that with the
least number that makes it free.
-/

namespace HandlerChains

/-- A name is a base name if that is free, or else the base name with the least number from two on
that is. -/
def FirstFree (base : Value) (taken : List Key) (name : Value) : Prop :=
  if base.key ∈ taken then
    ∃ k, 2 ≤ k ∧ name = .text (base.shown ++ "#" ++ toString k) ∧
      numbered base.shown k ∉ taken ∧ ∀ j, 2 ≤ j → j < k → numbered base.shown j ∈ taken
  else name = base

theorem numberedName_passes (base : String) (taken : List Key) (fuel n : Nat) :
    ∃ k, n ≤ k ∧ numberedName base taken fuel n = base ++ "#" ++ toString k ∧
      ∀ j, n ≤ j → j < k → numbered base j ∈ taken := by
  induction fuel generalizing n with
  | zero => exact ⟨n, Nat.le_refl n, rfl, fun j least small => by omega⟩
  | succ fuel ih =>
    unfold numberedName
    dsimp only
    split
    · next used =>
      obtain ⟨k, later, eq, passed⟩ := ih (n + 1)
      refine ⟨k, by omega, eq, fun j least small => ?_⟩
      rcases Nat.eq_or_lt_of_le least with rfl | above
      · exact used
      · exact passed j above small
    · exact ⟨n, Nat.le_refl n, rfl, fun j least small => by omega⟩

theorem uniqueName_firstFree (base : Value) (taken : List Key) :
    FirstFree base taken (uniqueName base taken) := by
  have fresh := uniqueName_fresh base taken
  unfold FirstFree
  unfold uniqueName at fresh ⊢
  split
  · next used =>
    obtain ⟨k, least, eq, passed⟩ := numberedName_passes base.shown taken taken.length 2
    rw [if_pos used, eq] at fresh
    exact ⟨k, least, by rw [eq], fresh, passed⟩
  · rfl

namespace Router

variable {r r' r'' : Router} {new new' : List Entry}

/-- A router with more entries at the end of its chains, under names that are new. -/
structure Gains (r : Router) (new : List Entry) (r' : Router) : Prop where
  chain : ∀ error, r'.chain error = r.chain error ++ new.filter fun e => e.error == error
  fresh : ∀ e ∈ new, e.key ∉ r.keys
  distinct : (new.map Entry.key).Nodup

namespace Gains

theorem of_chains (same : ∀ error, r'.chain error = r.chain error) : r.Gains [] r' where
  chain error := by simpa using same error
  fresh := by simp
  distinct := List.nodup_nil

theorem keys_perm (gains : r.Gains new r') : r'.keys.Perm (r.keys ++ new.map Entry.key) := by
  have left : r'.handlers = r.handlers ++ new.filter fun e => e.error == false :=
    gains.chain false
  have right : r'.errorHandlers = r.errorHandlers ++ new.filter fun e => e.error == true :=
    gains.chain true
  have split := List.filter_append_perm (fun e : Entry => e.error == false) new
  have others : (new.filter fun e => !(e.error == false)) = new.filter fun e => e.error == true :=
    List.filter_congr fun e _ => by cases e.error <;> rfl
  rw [others] at split
  unfold keys entries
  rw [← List.map_append, left, right]
  refine List.Perm.map _ (List.Perm.trans ?_ (List.Perm.append_left _ split))
  simp only [List.append_assoc]
  exact List.Perm.append_left _ (List.perm_append_comm_assoc ..)

theorem mem_keys (gains : r.Gains new r') (key : Key) :
    key ∈ r'.keys ↔ key ∈ r.keys ∨ key ∈ new.map Entry.key := by
  rw [gains.keys_perm.mem_iff, List.mem_append]

theorem keys_nodup (gains : r.Gains new r') (distinct : r.keys.Nodup) : r'.keys.Nodup := by
  rw [gains.keys_perm.nodup_iff, List.nodup_append]
  refine ⟨distinct, gains.distinct, fun old known key mem same => ?_⟩
  obtain ⟨e, he, rfl⟩ := List.mem_map.1 mem
  exact gains.fresh e he (same ▸ known)

theorem trans (gains : r.Gains new r') (gains' : r'.Gains new' r'') :
    r.Gains (new ++ new') r'' where
  chain error := by
    rw [gains'.chain, gains.chain, List.filter_append, List.append_assoc]
  fresh e mem := by
    rcases List.mem_append.1 mem with first | second
    · exact gains.fresh e first
    · exact fun old => gains'.fresh e second ((gains.mem_keys _).2 (.inl old))
  distinct := by
    rw [List.map_append, List.nodup_append]
    refine ⟨gains.distinct, gains'.distinct, fun old known key mem same => ?_⟩
    obtain ⟨e, he, rfl⟩ := List.mem_map.1 mem
    exact gains'.fresh e he ((gains.mem_keys _).2 (.inr (same ▸ known)))

end Gains

structure Takes (r : Router) (new : List Entry) (r' : Router) : Prop where
  gains : r.Gains new r'
  overrides : r'.overrides = r.overrides

namespace Takes

theorem refl (r : Router) : r.Takes [] r := ⟨.of_chains fun _ => rfl, rfl⟩

theorem trans (takes : r.Takes new r') (takes' : r'.Takes new' r'') :
    r.Takes (new ++ new') r'' :=
  ⟨takes.gains.trans takes'.gains, takes'.overrides.trans takes.overrides⟩

end Takes

def gained (r' r : Router) : List Entry := r'.entries.filter fun e => e.key ∉ r.keys

theorem gained_of_gains (gains : r.Gains new r') (few : new.length ≤ 1) : r'.gained r = new := by
  have old : ∀ error, (r.chain error).filter (fun e => decide (e.key ∉ r.keys)) = [] := by
    intro error
    refine List.filter_eq_nil_iff.2 fun e mem => ?_
    have known : e.key ∈ r.keys := List.mem_map_of_mem (chain_subset mem)
    simpa using known
  have split : r'.entries = r'.chain false ++ r'.chain true := rfl
  unfold gained
  rw [split, gains.chain, gains.chain, List.filter_append, List.filter_append, List.filter_append,
    old, old, List.nil_append, List.nil_append]
  rcases new with _ | ⟨e, _ | ⟨d, rest⟩⟩
  · rfl
  · have free : e.key ∉ r.keys := gains.fresh e (by simp)
    cases he : e.error <;> simp [he, free]
  · simp at few

theorem gains_append {e : Entry} (free : e.key ∉ r.keys) (store : PluginStore) :
    r.Gains [e] ({ r with store }.append e) where
  chain which := by
    rw [chain_append]
    by_cases here : which = e.error
    · simp [here, Router.chain]
    · have other : (e.error == which) = false := by simpa using Ne.symm here
      simp [here, other, Router.chain]
  fresh d mem := by
    obtain rfl := List.mem_singleton.1 mem
    exact free
  distinct := by simp

/-- A registration that succeeds adds one entry, for its handler and its chain, under the name that
was found for it. -/
theorem register_gains {codes : List String} {h : Handler} {error : Bool} {name : Value}
    {derived : Except Failure Value} {found : Except Failure Unit} {options : Assoc Value}
    (done : r.register codes h error name derived found options = (.ok (), r')) :
    ∃ e, r.Gains [e] r' ∧ r.entryName name derived = .ok e.name ∧ e.handler = h ∧
      e.error = error := by
  obtain ⟨-, -, e, ws, e', made, fits, rfl⟩ := register_eq_ok_iff.1 done
  obtain ⟨-, name', named, rfl⟩ := newEntry_eq_ok_iff.1 made
  have same := fits.eq_of_kept Plugin.Fits.name_eq
  refine ⟨{ e' with layers := r.plugins }, gains_append ?_ _, ?_, ?_, ?_⟩
  · change e'.key ∉ r.keys
    rw [fits.key_eq]
    exact entryName_fresh named
  · rw [named]
    exact congrArg Except.ok same.symm
  · exact fits.eq_of_kept Plugin.Fits.handler_eq
  · exact fits.eq_of_kept Plugin.Fits.error_eq

theorem register_overrides (r : Router) (codes : List String) (h : Handler) (error : Bool)
    (name : Value) (derived : Except Failure Value) (found : Except Failure Unit)
    (options : Assoc Value) :
    (r.register codes h error name derived found options).2.overrides = r.overrides := by
  unfold register
  split
  · rfl
  · unfold addEntry
    split
    · unfold append
      split <;> rfl
    · rfl

end Router

namespace World

variable {w : World} {self : RouterRef} {h : Handler} {error : Bool} {derived : Option String}
variable {options : Assoc Value}

/-- A router takes a handler under a name, unless another entry has that name: no cycle is closed,
and all plugins fit the entry. -/
structure AcceptsAs (w : World) (r : RouterRef) (h : Handler) (error : Bool)
    (options : Assoc Value) (name : Value) : Prop where
  passes : w.expectNoCycle r h = .ok ()
  splits : (w.router r).expect "_split_options" (.alone "dict") = .ok ()
  fits : ∃ s, ((w.router r).fitAll (h.reach w.router)).run
    ⟨(w.router r).store,
      { name, handler := h, error
        metadata := (w.router r).entryMetadata (Assoc.names w.pluginClasses) options }⟩ =
      (.ok (), s)

theorem register_eq_ok {given : Value}
    (done : (w.register self h error given derived options).1 = .ok ()) :
    ∃ r', (w.router self).register (Assoc.names w.pluginClasses) h error given
        (w.derivedName h derived) (h.reach w.router) options = (.ok (), r') ∧
      w.register self h error given derived options = (.ok (), w.setRouter self r') := by
  cases passes : w.expectNoCycle self h with
  | error f =>
    rw [w.register_of_refused self h error given derived options passes] at done
    cases done
  | ok _ =>
    rw [w.register_of_passes self h error given derived options passes] at done ⊢
    exact ⟨_, Prod.ext done rfl, Prod.ext done rfl⟩

/-- A registration changes at most the router that it is made with, to which it adds one entry if
it succeeds and none if not. -/
theorem register_gains (w : World) (self : RouterRef) (h : Handler) (error : Bool) (given : Value)
    (derived : Option String) (options : Assoc Value) :
    let answer := w.register self h error given derived options
    (∀ q, q ≠ self → answer.2.router q = w.router q) ∧
      ((∃ f, answer.1 = .error f ∧ (w.router self).Gains [] (answer.2.router self)) ∨
        (answer.1 = .ok () ∧ ∃ e, (w.router self).Gains [e] (answer.2.router self) ∧
          (w.router self).entryName given (w.derivedName h derived) = .ok e.name ∧
          e.handler = h ∧ e.error = error)) := by
  dsimp only
  cases ended : (w.register self h error given derived options).1 with
  | error f =>
    obtain ⟨others, kept⟩ := register_failed ended
    refine ⟨others, .inl ⟨f, rfl, .of_chains fun which => ?_⟩⟩
    obtain same | ⟨key, -, kept⟩ := kept
    · rw [same]
    · rw [kept.rest]
      rfl
  | ok _ =>
    obtain ⟨r', registered, answer⟩ := register_eq_ok ended
    rw [answer]
    refine ⟨fun q apart => router_setRouter_of_ne w _ apart, .inr ⟨rfl, ?_⟩⟩
    rw [router_setRouter_self]
    exact Router.register_gains registered

theorem register_overrides (w : World) (self : RouterRef) (h : Handler) (error : Bool)
    (name : Value) (derived : Option String) (options : Assoc Value) (r : RouterRef) :
    ((w.register self h error name derived options).2.router r).overrides =
      (w.router r).overrides := by
  unfold register
  cases w.expectNoCycle self h with
  | error f => rfl
  | ok _ =>
    dsimp only
    rw [router_setRouter]
    split
    · next same => rw [Router.register_overrides, same]
    · rfl

theorem register_of_accepts {given name : Value} (accepts : w.AcceptsAs self h error options name)
    (named : (w.router self).entryName given (w.derivedName h derived) = .ok name) :
    (w.register self h error given derived options).1 = .ok () := by
  obtain ⟨s, fitted⟩ := accepts.fits
  rw [w.register_of_passes self h error given derived options accepts.passes]
  unfold Router.register
  rw [Router.newEntry_eq_ok_iff.2 ⟨accepts.splits, name, named, rfl⟩]
  dsimp only
  unfold Router.addEntry
  rw [fitted]

/-- A router without plugins, whose class leaves all to it, takes any handler that is no router and
leads to none. -/
theorem acceptsAs_of_bare (w : World) (error : Bool) (options : Assoc Value)
    (plugins : (w.router self).plugins = []) (overrides : (w.router self).overrides = [])
    (leaf : h.child? = none) (name : Value) : w.AcceptsAs self h error options name := by
  have own : ∀ place, (w.router self).IsOwn place := fun place => by
    rw [Router.IsOwn, overrides]
    rfl
  have found : h.reach w.router = .ok () := by
    cases h with
    | router r => cases leaf
    | _ => rfl
  have registers : (w.router self).OwnsRegistering :=
    ⟨own _, own _, .inl plugins, .inl plugins⟩
  constructor
  · unfold expectNoCycle
    rw [leaf]
  · exact (Router.expect_eq_ok_iff ..).2 (own _)
  · exact ⟨⟨_, _⟩, Router.fitAll_eq_ok_iff.2
      ⟨found, registers, [], plugins ▸ Router.FitsAll.nil _, rfl⟩⟩

theorem register_of_unnamed {given : Value} {f : Failure} (passes : w.expectNoCycle self h = .ok ())
    (splits : (w.router self).expect "_split_options" (.alone "dict") = .ok ())
    (unnamed : (w.router self).entryName given (w.derivedName h derived) = .error f) :
    (w.register self h error given derived options).1 = .error f := by
  rw [w.register_of_passes self h error given derived options passes]
  unfold Router.register Router.newEntry
  rw [splits, unnamed]
  rfl

/-- The worlds and entries that registration calls come to: the last world, and for each call the
entries that the router has more after it. -/
def registerEach (w : World) : List (RouterRef × Registration) → World × List (RouterRef × Entry)
  | [] => (w, [])
  | (r, reg) :: calls =>
    let next := (Exec.register r reg w).world
    let rest := next.registerEach calls
    (rest.1, ((next.router r).gained (w.router r)).map (fun e => (r, e)) ++ rest.2)

end World

def registeredWith (r : RouterRef) (log : List (RouterRef × Entry)) : List Entry :=
  (log.filter fun entry => entry.1 == r).map Prod.snd

theorem registeredWith_append (r : RouterRef) (log log' : List (RouterRef × Entry)) :
    registeredWith r (log ++ log') = registeredWith r log ++ registeredWith r log' := by
  simp [registeredWith]

theorem registeredWith_single (r s : RouterRef) (es : List Entry) :
    registeredWith r (es.map fun e => (s, e)) = if s = r then es else [] := by
  unfold registeredWith
  split
  · next same =>
    subst same
    rw [List.filter_eq_self.2 (by simp), List.map_map]
    exact List.map_id es
  · next apart => simp [apart]

/-- What registers at most one handler with a router adds at most one entry to it, and leaves the
other routers as they are. -/
theorem Exec.Registered.takes {α : Type} {late : Prop} {w : World} {r : RouterRef} {e : Ended α}
    (step : Exec.Registered late r w e) :
    ∃ new, new.length ≤ 1 ∧ (w.router r).Takes new (e.world.router r) ∧
      ∀ q, q ≠ r → e.world.router q = w.router q := by
  cases step with
  | aside same _ =>
    refine ⟨[], by simp, ?_, fun q _ => World.router_congr same q⟩
    rw [World.router_congr same r]
    exact .refl _
  | handed v h error name derived options same changed _ _ =>
    obtain ⟨others, self⟩ := v.register_gains r h error name derived options
    have overrides := v.register_overrides r h error name derived options r
    simp only [World.router_congr same, World.router_congr changed] at others self overrides ⊢
    obtain ⟨f, -, none⟩ | ⟨-, e, one, -⟩ := self
    · exact ⟨[], by simp, ⟨none, overrides⟩, others⟩
    · exact ⟨[e], by simp, ⟨one, overrides⟩, others⟩

namespace World

variable {w : World}

theorem call_gains (w : World) (r : RouterRef) (reg : Registration) :
    let next := (Exec.register r reg w).world
    ∀ q, (w.router q).Gains
      (registeredWith q (((next.router r).gained (w.router r)).map fun e => (r, e)))
      (next.router q) := by
  dsimp only
  obtain ⟨new, few, ⟨gains, -⟩, others⟩ := (Exec.Registers.register r reg w).takes
  rw [Router.gained_of_gains gains few]
  intro q
  rw [registeredWith_single]
  split
  · next same => exact same ▸ gains
  · next apart =>
    rw [others q (Ne.symm apart)]
    exact .of_chains fun _ => rfl

theorem registerEach_gains (w : World) (calls : List (RouterRef × Registration)) (r : RouterRef) :
    (w.router r).Gains (registeredWith r (w.registerEach calls).2)
      ((w.registerEach calls).1.router r) := by
  induction calls generalizing w with
  | nil => exact .of_chains fun _ => rfl
  | cons call calls ih =>
    obtain ⟨s, reg⟩ := call
    unfold registerEach
    dsimp only
    rw [registeredWith_append]
    exact (call_gains w s reg r).trans (ih _)

/-- After any registration calls, made on whatever routers and successful or not, the names of each
router are distinct and its chains list what was registered, in order. A handler that is acceptable
otherwise is then refused under a name that is given exactly if that is taken; without a name it is
registered, under the first of its base name and the numbered ones that is free. -/
theorem registerEach_names (distinct : ∀ r, (w.router r).keys.Nodup)
    (calls : List (RouterRef × Registration)) :
    let v := (w.registerEach calls).1
    (∀ r, (v.router r).keys.Nodup) ∧
    (∀ r which, (v.router r).chain which = (w.router r).chain which ++
      (registeredWith r (w.registerEach calls).2).filter fun e => e.error == which) ∧
    ∀ self h error given derived options,
      let answer := v.register self h error given derived options
      (∀ key, given.isTruthy = true → Failure.keyOf given = .ok key →
        v.AcceptsAs self h error options given →
          ((∃ f, answer.1 = .error f ∧ f.kind = .badValue) ↔ key ∈ (v.router self).keys) ∧
          (answer.1 = .ok () ↔ key ∉ (v.router self).keys)) ∧
      (∀ base key, given.isTruthy = false → v.derivedName h derived = .ok base →
        Failure.keyOf base = .ok key →
          ∃ name, FirstFree base (v.router self).keys name ∧
            (v.AcceptsAs self h error options name →
              answer.1 = .ok () ∧ ∃ e, e.name = name ∧ e.handler = h ∧ e.error = error ∧
                (v.router self).Gains [e] (answer.2.router self))) := by
  dsimp only
  refine ⟨fun r => (registerEach_gains w calls r).keys_nodup (distinct r),
    fun r => (registerEach_gains w calls r).chain, ?_⟩
  generalize (w.registerEach calls).1 = v
  intro self h error given derived options
  constructor
  · intro key truthy hashable accepts
    have named : (v.router self).entryName given (v.derivedName h derived) =
        if key ∈ (v.router self).keys then .error (.handlerNameTaken given) else .ok given := by
      unfold Router.entryName
      rw [if_pos truthy, hashable]
      rfl
    by_cases taken : key ∈ (v.router self).keys
    · rw [if_pos taken] at named
      have refused : (v.register self h error given derived options).1 =
          .error (.handlerNameTaken given) :=
        register_of_unnamed accepts.passes accepts.splits named
      rw [refused]
      exact ⟨⟨fun _ => taken, fun _ => ⟨_, rfl, rfl⟩⟩, by simp [taken]⟩
    · rw [if_neg taken] at named
      rw [register_of_accepts accepts named]
      simp [taken]
  · intro base key unnamed own hashable
    have named : (v.router self).entryName given (v.derivedName h derived) =
        .ok (uniqueName base (v.router self).keys) := by
      unfold Router.entryName
      rw [if_neg (by simp [unnamed]), own]
      dsimp only [bind, Except.bind]
      rw [hashable]
      rfl
    refine ⟨_, uniqueName_firstFree base (v.router self).keys, fun accepts => ?_⟩
    have done := register_of_accepts accepts named
    refine ⟨done, ?_⟩
    obtain ⟨-, ⟨f, failed, -⟩ | ⟨-, e, gains, named', handler, chain⟩⟩ :=
      v.register_gains self h error given derived options
    · rw [done] at failed
      cases failed
    · rw [named] at named'
      exact ⟨e, (Except.ok.inj named').symm, handler, chain, gains⟩

def answering (options : Assoc Value) : RouterRef × Registration :=
  (0, .mk (.action .callback (.function "f" [] .null)) options false)

/-- A name that looks numbered is given first, and a second time in between. -/
def givenAndNumbered : List (RouterRef × Registration) :=
  [answering [("name", .text "f#2")], answering [], answering [("name", .text "f#2")],
    answering [], answering []]

theorem givenAndNumbered_names :
    let v := ((Small.world [Small.newRouter]).registerEach givenAndNumbered).1
    let h := Handler.callback (Small.action [])
    (v.router 0).keys.Nodup ∧
      (v.router 0).handlers.map Entry.name = [.text "f#2", .text "f", .text "f#3", .text "f#4"] ∧
      (∃ f, (v.register 0 h false (.text "f#3") none []).1 = .error f ∧ f.kind = .badValue) ∧
      ∃ name, FirstFree (.text "f") (v.router 0).keys name ∧
        (v.register 0 h false .null (some "f") []).1 = .ok () := by
  have distinct : ∀ r, ((Small.world [Small.newRouter]).router r).keys.Nodup := by
    intro r
    match r with
    | 0 => exact List.nodup_nil
    | _ + 1 => exact List.nodup_nil
  have accepts : ∀ name, ((Small.world [Small.newRouter]).registerEach givenAndNumbered).1.AcceptsAs
      0 (.callback (Small.action [])) false [] name :=
    fun name => acceptsAs_of_bare _ _ _ (by cbv) (by cbv) rfl name
  obtain ⟨keys, -, named⟩ := registerEach_names distinct givenAndNumbered
  obtain ⟨given, -⟩ := named 0 (.callback (Small.action [])) false (.text "f#3") none []
  obtain ⟨-, unnamed⟩ := named 0 (.callback (Small.action [])) false .null (some "f") []
  obtain ⟨refused, -⟩ := given (.text "f#3") rfl rfl (accepts _)
  obtain ⟨name, free, taken⟩ := unnamed (.text "f") (.text "f") rfl rfl rfl
  exact ⟨keys 0, by cbv, refused.2 (by decide +kernel), name, free, (taken (accepts name)).1⟩

end World
end HandlerChains
