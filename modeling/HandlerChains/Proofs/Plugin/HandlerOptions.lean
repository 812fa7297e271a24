import HandlerChains.Dispatch.Layer
import HandlerChains.Proofs.Router.Naming
import HandlerChains.Proofs.Tables

/-!
# Options of single handlers

The options for a plugin among those of a registration are what the store has for the new entry,
unless something was configured under its name before. They overlay what the plugin has for all
handlers wherever the configuration of the entry is read, except where the name of the entry counts
as none: then only what is there for all handlers is read.
-/

namespace HandlerChains
namespace Assoc

variable {κ α : Type} {t new : Table κ α} {name : κ} {v : α}

def Distinct (t : Table κ α) : Prop := (names t).Nodup

theorem Distinct.nil : Distinct ([] : Table κ α) := List.nodup_nil

variable [DecidableEq κ]

theorem erase_eq_self (h : get? t name = none) : erase t name = t := by
  induction t with
  | nil => rfl
  | cons row rest ih =>
    obtain ⟨k, v⟩ := row
    by_cases same : k = name
    · simp [get?, same] at h
    · rw [get?, if_neg same] at h
      have kept := ih h
      unfold erase at kept ⊢
      rw [List.filter_cons, if_pos (by simpa using same), kept]

theorem put_eq_self (h : get? t name = some v) : put t name v = t := by
  induction t with
  | nil => cases h
  | cons row rest ih =>
    obtain ⟨k, u⟩ := row
    by_cases same : k = name
    · rw [get?, if_pos same] at h
      cases h
      rw [put, if_pos same]
    · rw [get?, if_neg same] at h
      rw [put, if_neg same, ih h]

theorem get?_merge (distinct : Distinct new) (t : Table κ α) (name : κ) :
    get? (merge t new) name = (get? new name).or (get? t name) := by
  induction new generalizing t with
  | nil => rfl
  | cons row rest ih =>
    obtain ⟨k, v⟩ := row
    obtain ⟨alone, distinct⟩ := List.nodup_cons.1 distinct
    rw [merge_cons, ih distinct]
    by_cases same : k = name
    · subst same
      rw [get?_eq_none alone, get?_put_self, get?, if_pos rfl]
      rfl
    · rw [get?_put_of_ne _ _ (Ne.symm same), get?, if_neg same]

theorem Distinct.put (distinct : Distinct t) (name : κ) (v : α) : Distinct (put t name v) := by
  unfold Distinct
  rw [names_put]
  split
  · exact distinct
  · next new =>
    refine List.nodup_append.2 ⟨distinct, List.nodup_singleton name, ?_⟩
    rintro k known _ mem rfl
    exact new (List.mem_singleton.1 mem ▸ known)

theorem Distinct.merge (distinct : Distinct t) (new : Table κ α) : Distinct (merge t new) := by
  induction new generalizing t with
  | nil => exact distinct
  | cons row rest ih => exact ih (distinct.put row.1 row.2)

theorem Distinct.erase (distinct : Distinct t) (name : κ) : Distinct (erase t name) :=
  List.Nodup.sublist (List.Sublist.map Prod.fst List.filter_sublist) distinct

theorem merge_eq_self (known : ∀ row ∈ new, get? t row.1 = some row.2) : merge t new = t := by
  induction new with
  | nil => rfl
  | cons row rest ih =>
    rw [List.forall_mem_cons] at known
    rw [merge_cons, put_eq_self known.1]
    exact ih known.2

theorem get?_of_mem (distinct : Distinct t) {row : κ × α} (mem : row ∈ t) :
    get? t row.1 = some row.2 := by
  induction t with
  | nil => cases mem
  | cons first rest ih =>
    obtain ⟨k, u⟩ := first
    obtain ⟨alone, distinct⟩ := List.nodup_cons.1 distinct
    rcases List.mem_cons.1 mem with rfl | later
    · rw [get?, if_pos rfl]
    · have listed : row.1 ∈ names rest := List.mem_map_of_mem later
      rw [get?, if_neg fun same : k = row.1 => alone (same ▸ listed)]
      exact ih distinct later

theorem merge_merge_self (distinct : Distinct new) (t : Table κ α) :
    merge (merge t new) new = merge t new := by
  refine merge_eq_self fun row mem => ?_
  rw [get?_merge distinct, get?_of_mem distinct mem]
  rfl

theorem merge_eq_append (distinct : Distinct new) (apart : ∀ k ∈ names new, k ∉ names t) :
    merge t new = t ++ new := by
  induction new generalizing t with
  | nil => exact (List.append_nil t).symm
  | cons row rest ih =>
    obtain ⟨k, v⟩ := row
    obtain ⟨alone, distinct⟩ := List.nodup_cons.1 distinct
    have away : k ∉ names t := apart k List.mem_cons_self
    rw [merge_cons, put_eq_append away, ih distinct, List.append_assoc]
    · rfl
    · intro j mem known
      rw [names, List.map_append] at known
      rcases List.mem_append.1 known with old | last
      · exact apart j (List.mem_cons_of_mem _ mem) old
      · exact alone (List.mem_singleton.1 last ▸ mem)

theorem nil_merge (distinct : Distinct new) : merge [] new = new :=
  merge_eq_append distinct fun _ _ => List.not_mem_nil

end Assoc

namespace Options

theorem distinct_takenBy (code : String) (options : Assoc Value) :
    Assoc.Distinct (takenBy code options) :=
  Assoc.Distinct.nil.merge _

theorem get?_forPlugins {codes : List String} {code : String} {options : Assoc Value}
    (known : code ∈ codes) (given : takenBy code options ≠ []) :
    Assoc.get? (forPlugins codes options) code = some (.record (takenBy code options)) := by
  have taken : (takenBy code options).isEmpty = false := by simpa using given
  unfold forPlugins
  induction codes with
  | nil => cases known
  | cons first codes ih =>
    rw [List.map_cons, List.filterMap_cons]
    by_cases same : first = code
    · subst same
      simp [taken, Assoc.get?]
    · have later := ih ((List.mem_cons.1 known).resolve_left (Ne.symm same))
      dsimp only
      split
      · exact later
      · next row eq =>
        split at eq
        · cases eq
        · cases eq
          rw [Assoc.get?, if_neg same]
          exact later

end Options

/-- The options that the metadata of a new entry has for a plugin are those that were given for
it. -/
theorem Router.optionsIn_entryMetadata {r : Router} {codes : List String} {options : Assoc Value}
    {code : String} (tier : r.tier ≠ .plain) (known : code ∈ codes)
    (given : Options.takenBy code options ≠ []) :
    Plugin.optionsIn (r.entryMetadata codes options) code = .ok (Options.takenBy code options) := by
  have found := Options.get?_forPlugins known given
  have some : (Options.forPlugins codes options).isEmpty = false := by
    cases empty : Options.forPlugins codes options with
    | nil => simp [empty] at found
    | cons row rest => rfl
  have metadata : r.entryMetadata codes options = Assoc.put (Options.metadata codes options)
      "plugin_config" (.record (Options.forPlugins codes options)) := by
    unfold entryMetadata
    cases ht : r.tier with
    | plain => exact absurd ht tier
    | pluggable => simp [some]
    | application => simp [some]
  unfold Plugin.optionsIn
  rw [metadata, Assoc.get?_put_self]
  dsimp only
  rw [found]

namespace Plugin

variable {p : Plugin} {e e' : Entry} {ws : List Write} {given flags : Assoc Value}

theorem distinct_flagsOf {v : Value} (read : flagsOf v = .ok flags) : Assoc.Distinct flags := by
  unfold flagsOf at read
  split at read
  · cases read
    exact Assoc.Distinct.nil.merge _
  · split at read
    · cases read
    · cases read
      exact .nil

/-- Options as they are written: the flags that the option `flags` sets, over all others. -/
def overlaid (given flags : Assoc Value) : Assoc Value :=
  Assoc.merge (Assoc.erase given "flags") flags

theorem distinct_overlaid (distinct : Assoc.Distinct given) (flags : Assoc Value) :
    Assoc.Distinct (overlaid given flags) :=
  (distinct.erase "flags").merge flags

def SetsFlags (given flags : Assoc Value) : Prop :=
  flagsOf ((Assoc.get? given "flags").getD .null) = .ok flags

theorem SetsFlags.unique {other : Assoc Value} (sets : SetsFlags given flags)
    (sets' : SetsFlags given other) : flags = other :=
  Except.ok.inj (sets.symm.trans sets')

theorem expandFlags_eq_ok {own : Assoc Value} (expands : expandFlags given = .ok own) :
    ∃ flags, SetsFlags given flags ∧ own = overlaid given flags := by
  unfold expandFlags at expands
  unfold SetsFlags overlaid
  cases found : Assoc.get? given "flags" with
  | none =>
    rw [found] at expands
    cases expands
    exact ⟨[], rfl, (Assoc.erase_eq_self found).symm⟩
  | some v =>
    rw [found] at expands
    dsimp only at expands
    cases read : flagsOf v with
    | error f =>
      rw [read] at expands
      cases expands
    | ok flags =>
      rw [read] at expands
      cases expands
      exact ⟨flags, read, rfl⟩

theorem write_eq_ok {store store' : PluginStore} {target : Value} {options : Assoc Value}
    (written : p.write store target options = .ok store') :
    store' = store.writeConfig p.name target.key options := by
  unfold write at written
  by_cases empty : options.isEmpty = true
  · rw [if_pos empty] at written
    rw [PluginStore.writeConfig, if_pos empty]
    exact (Except.ok.inj written).symm
  · rw [if_neg empty] at written
    cases hashable : Failure.keyOf target with
    | error f =>
      rw [hashable] at written
      cases written
    | ok key =>
      rw [hashable] at written
      rw [Failure.key_of_keyOf hashable]
      exact (Except.ok.inj written).symm

theorem configureHandler_eq_ok {store store' : PluginStore} {handler : Value}
    (done : p.configureHandler store handler given = .ok store') :
    ∃ flags, SetsFlags given flags ∧
      store' = store.writeConfig p.name handler.key (overlaid given flags) := by
  unfold configureHandler at done
  split at done
  · cases done
  · split at done
    · next rules _ =>
      cases expands : expandFlags given with
      | error f =>
        rw [expands] at done
        cases done
      | ok own =>
        obtain ⟨flags, sets, rfl⟩ := expandFlags_eq_ok expands
        rw [expands] at done
        change (checkOptions rules _ >>= fun _ => _) = _ at done
        cases checked : checkOptions rules (overlaid given flags) with
        | error f =>
          rw [checked] at done
          cases done
        | ok _ =>
          rw [checked] at done
          exact ⟨flags, sets, write_eq_ok done⟩
    · dsimp only at done
      split at done
      · next bare =>
        cases read : flagsOf ((Assoc.get? given "flags").getD .null) with
        | error f =>
          rw [read] at done
          cases done
        | ok flags =>
          rw [read] at done
          refine ⟨flags, read, ?_⟩
          rw [overlaid, List.isEmpty_iff.1 bare, Assoc.nil_merge (distinct_flagsOf read)]
          exact write_eq_ok done
      · cases done

theorem optionsIn_onRegister {metadata : Assoc Value} (told : p.onRegister e = .ok metadata)
    (plugin : String) : optionsIn metadata plugin = optionsIn e.metadata plugin := by
  unfold onRegister at told
  dsimp only at told
  split at told
  · split at told
    · cases told
      have other : "plugin_config" ≠ "counted" := by decide
      unfold optionsIn
      rw [Assoc.get?_put_of_ne e.metadata _ other]
    · cases told
  · split at told
    · split at told <;> cases told
      rfl
    · cases told
  all_goals
    cases told
    rfl

namespace Fits

/-- A plugin that fits an entry reads its options, writes them if there are any, and is told of the
entry. -/
theorem steps (fits : p.Fits e (.ok ()) ws e') (store : PluginStore) :
    ∃ options, optionsIn e.metadata p.name = .ok options ∧
      (if options.isEmpty then .ok store else p.configureHandler store e.name options) =
        .ok (store.writeEach ws) ∧
      ∃ metadata, p.onRegister (p.listed e) = .ok metadata ∧
        e' = p.noted metadata (p.listed e) := by
  have fitted := fits.comesTo default store
  rw [fit_run] at fitted
  cases found : optionsIn (p.listed e).metadata p.name with
  | error f =>
    rw [found] at fitted
    cases fitted
  | ok options =>
    rw [found] at fitted
    dsimp only at fitted
    refine ⟨options, found, ?_⟩
    split at fitted
    · cases fitted
    · next store' written =>
      rw [notify_run_eq] at fitted
      split at fitted
      · cases fitted
      · next told =>
        cases fitted
        exact ⟨written, _, told, rfl⟩

theorem eq_ok (fits : p.Fits e (.ok ()) ws e') :
    (∀ plugin, optionsIn e'.metadata plugin = optionsIn e.metadata plugin) ∧
      ∀ given, optionsIn e.metadata p.name = .ok given → given ≠ [] →
        ∃ flags, SetsFlags given flags ∧
          ∀ store : PluginStore,
            store.writeEach ws = store.writeConfig p.name e.key (overlaid given flags) := by
  obtain ⟨-, -, -, metadata, told, rfl⟩ := fits.steps []
  refine ⟨fun plugin => optionsIn_onRegister (e := p.listed e) told plugin,
    fun given found some => ?_⟩
  have writes : ∀ store, p.configureHandler store e.name given = .ok (store.writeEach ws) := by
    intro store
    obtain ⟨options, found', written, -⟩ := fits.steps store
    obtain rfl := Except.ok.inj (found.symm.trans found')
    rwa [if_neg (by simpa using some)] at written
  obtain ⟨flags, sets, -⟩ := configureHandler_eq_ok (writes [])
  refine ⟨flags, sets, fun store => ?_⟩
  obtain ⟨flags', sets', written⟩ := configureHandler_eq_ok (writes store)
  rw [written, sets.unique sets']
  rfl

end Fits
end Plugin

theorem PluginStore.configuration_null (store : PluginStore) (plugin : String) :
    store.configuration plugin .null = (store.slot plugin everyHandler).config := rfl

namespace Slot

variable {own : Assoc Value}

theorem written_written (distinct : Assoc.Distinct own) (held : Option Slot) :
    written (written held own) own = written held own := by
  unfold written
  split
  · rfl
  · rw [Option.getD_some, Assoc.merge_merge_self distinct]

theorem config_written (distinct : Assoc.Distinct own) {held : Option Slot}
    (empty : (held.getD {}).config = []) : ((written held own).getD {}).config = own := by
  unfold written
  split
  · next none => rw [empty, List.isEmpty_iff.1 none]
  · rw [Option.getD_some, empty, Assoc.nil_merge distinct]

end Slot

namespace Router

variable {r : Router} {ps : List Plugin} {e e' : Entry} {ws : List Write} {code : String}
variable {given : Assoc Value}

namespace FitsAll

theorem slot?_of_unnamed (fits : FitsAll ps e ws e') (none : ∀ q ∈ ps, q.name ≠ code)
    (store : PluginStore) (target : Key) :
    (store.writeEach ws).slot? code target = store.slot? code target := by
  rw [PluginStore.slot?_writeEach, Write.configsAt_eq_nil]
  · rfl
  · intro w hw same
    obtain ⟨⟨q, attached, plugin⟩, -⟩ := fits.places w hw
    exact absurd (plugin.symm.trans same) (none q attached)

theorem slot?_of_other (fits : FitsAll ps e ws e') (store : PluginStore) {target : Key}
    (other : target ≠ e.key) :
    (store.writeEach ws).slot? code target = store.slot? code target := by
  rw [PluginStore.slot?_writeEach, Write.configsAt_eq_nil]
  · rfl
  · exact fun w hw _ here => other (here.symm.trans (fits.places w hw).2)

/-- The options that an entry has for a plugin are written once by each plugin of that name, which
comes to the same as writing them once. -/
theorem slot?_of_named (fits : FitsAll ps e ws e') (attached : ∃ q ∈ ps, q.name = code)
    (found : Plugin.optionsIn e.metadata code = .ok given) (some : given ≠ [])
    (distinct : Assoc.Distinct given) :
    ∃ flags, Plugin.SetsFlags given flags ∧ ∀ store : PluginStore,
      (store.writeEach ws).slot? code e.key =
        Slot.written (store.slot? code e.key) (Plugin.overlaid given flags) := by
  induction fits with
  | nil e =>
    obtain ⟨q, none, -⟩ := attached
    cases none
  | @cons p ps e e' e'' ws vs first rest ih =>
    obtain ⟨keeps, writes⟩ := first.eq_ok
    have found' : Plugin.optionsIn e'.metadata code = .ok given := (keeps code).trans found
    by_cases named : p.name = code
    · obtain ⟨flags, sets, written⟩ := writes given (named ▸ found) some
      have once : ∀ store : PluginStore, (store.writeEach ws).slot? code e.key =
          Slot.written (store.slot? code e.key) (Plugin.overlaid given flags) := by
        intro store
        rw [written, PluginStore.slot?_writeConfig, if_pos ⟨named.symm, rfl⟩]
      refine ⟨flags, sets, fun store => ?_⟩
      rw [PluginStore.writeEach_append]
      by_cases again : ∃ q ∈ ps, q.name = code
      · obtain ⟨flags', sets', later⟩ := ih again found'
        rw [first.key_eq] at later
        rw [later, once, ← sets.unique sets',
          Slot.written_written (Plugin.distinct_overlaid distinct flags)]
      · rw [rest.slot?_of_unnamed (fun q mem same => again ⟨q, mem, same⟩), once]
    · obtain ⟨q, mem, same⟩ := attached
      have later : q ∈ ps :=
        (List.mem_cons.1 mem).resolve_left fun first => named (first ▸ same)
      obtain ⟨flags, sets, written⟩ := ih ⟨q, later, same⟩ found'
      refine ⟨flags, sets, fun store => ?_⟩
      have untouched : (store.writeEach ws).slot? code e.key = store.slot? code e.key := by
        rw [PluginStore.slot?_writeEach, Write.configsAt_eq_nil]
        · rfl
        · exact fun w hw here => absurd ((first.places w hw).1.symm.trans here) named
      rw [PluginStore.writeEach_append, ← first.key_eq, written, first.key_eq, untouched]

/-- Where nothing was configured for an entry, its options overlay what there is for all
handlers. -/
theorem configuration_eq (fits : FitsAll ps e ws e') (attached : ∃ q ∈ ps, q.name = code)
    (found : Plugin.optionsIn e.metadata code = .ok given) (some : given ≠ [])
    (distinct : Assoc.Distinct given) :
    ∃ flags, Plugin.SetsFlags given flags ∧ ∀ store : PluginStore,
      (store.slot code e.key).config = [] →
        (store.writeEach ws).configuration code e.key =
          if e.key.isTruthy then
            Assoc.merge (store.configuration code .null) (Plugin.overlaid given flags)
          else store.configuration code .null := by
  obtain ⟨flags, sets, written⟩ := fits.slot?_of_named attached found some distinct
  have distinct := Plugin.distinct_overlaid distinct flags
  refine ⟨flags, sets, fun store empty => ?_⟩
  have own : ((store.writeEach ws).slot code e.key).config = Plugin.overlaid given flags := by
    rw [PluginStore.slot_eq, written]
    exact Slot.config_written distinct empty
  have read : (store.writeEach ws).configuration code e.key =
      if e.key.isTruthy then
        Assoc.merge ((store.writeEach ws).configuration code .null) (Plugin.overlaid given flags)
      else (store.writeEach ws).configuration code .null := by
    rw [← own]
    rfl
  rw [read, PluginStore.configuration_null, PluginStore.configuration_null]
  by_cases every : e.key = everyHandler
  · -- Nothing was configured for all handlers, and the entry is named as they are.
    have truthy : e.key.isTruthy = true := every ▸ rfl
    rw [← every, own, empty, if_pos truthy, if_pos truthy]
    have twice := Assoc.merge_merge_self distinct []
    rwa [Assoc.nil_merge distinct] at twice ⊢
  · rw [PluginStore.slot_eq, fits.slot?_of_other store (Ne.symm every)]
    rfl

end FitsAll

theorem append_rest (r : Router) (e : Entry) :
    ∃ handlers errorHandlers, r.append e = { r with handlers, errorHandlers } := by
  unfold append
  split
  · exact ⟨r.handlers, _, rfl⟩
  · exact ⟨_, r.errorHandlers, rfl⟩

theorem plugin?_of_mem {p : Plugin} (attached : p ∈ r.plugins) :
    ∃ q, r.plugin? p.name = some q ∧ q.name = p.name := by
  unfold plugin?
  cases found : r.plugins.reverse.find? fun q => q.name == p.name with
  | none =>
    have missed := List.find?_eq_none.1 found p (List.mem_reverse.2 attached)
    simp at missed
  | some q => exact ⟨q, rfl, by simpa using List.find?_some found⟩

theorem keyOf_entryName {given name : Value} {derived : Except Failure Value}
    (named : r.entryName given derived = .ok name) : Failure.keyOf name = .ok name.key := by
  have known : ∀ {v key}, Failure.keyOf v = .ok key → Failure.keyOf v = .ok v.key := by
    intro v key hashable
    rw [Failure.key_of_keyOf hashable]
    exact hashable
  unfold entryName at named
  split at named
  · cases hashable : Failure.keyOf given with
    | error f =>
      rw [hashable] at named
      cases named
    | ok key =>
      rw [hashable] at named
      dsimp only [bind, Except.bind] at named
      split at named
      · cases named
      · cases named
        exact known hashable
  · cases derived with
    | error f => cases named
    | ok base =>
      dsimp only [bind, Except.bind] at named
      cases hashable : Failure.keyOf base with
      | error f =>
        rw [hashable] at named
        cases named
      | ok key =>
        rw [hashable] at named
        cases named
        unfold uniqueName
        split
        · rfl
        · exact known hashable

/-- A handler that a router took with options for an attached plugin has its options over what there
is for all handlers, if its name counts as one. -/
theorem register_overlays {r' : Router} {codes : List String} {h : Handler} {error : Bool}
    {name : Value} {derived : Except Failure Value} {found : Except Failure Unit}
    {options : Assoc Value} {p : Plugin} (tier : r.tier ≠ .plain) (attached : p ∈ r.plugins)
    (known : p.name ∈ codes) (some : Options.takenBy p.name options ≠ [])
    (done : r.register codes h error name derived found options = (.ok (), r')) :
    ∃ e flags, r.Gains [e] r' ∧ e.handler = h ∧ p ∈ e.layers ∧
      r.entryName name derived = .ok e.name ∧
      r' = { r with
        store := r'.store, handlers := r'.handlers, errorHandlers := r'.errorHandlers } ∧
      Plugin.SetsFlags (Options.takenBy p.name options) flags ∧
      ((r.store.slot p.name e.key).config = [] →
        r'.store.configuration p.name e.key =
          if e.key.isTruthy then Assoc.merge (r.store.configuration p.name .null)
            (Plugin.overlaid (Options.takenBy p.name options) flags)
          else r.store.configuration p.name .null) := by
  obtain ⟨-, -, e, ws, e', made, fits, rfl⟩ := register_eq_ok_iff.1 done
  obtain ⟨-, name', named, rfl⟩ := newEntry_eq_ok_iff.1 made
  obtain ⟨flags, sets, overlays⟩ := fits.configuration_eq ⟨p, attached, rfl⟩
    (optionsIn_entryMetadata tier known some) some (Options.distinct_takenBy _ _)
  have same : e'.name = name' := fits.eq_of_kept Plugin.Fits.name_eq
  have key : e'.key = name'.key := congrArg Value.key same
  obtain ⟨hs, fs, rest⟩ := append_rest { r with store := r.store.writeEach ws }
    { e' with layers := r.plugins }
  refine ⟨{ e' with layers := r.plugins }, flags, gains_append ?_ _,
    fits.eq_of_kept Plugin.Fits.handler_eq, attached, ?_, ?_, sets, fun empty => ?_⟩
  · change e'.key ∉ r.keys
    rw [key]
    exact entryName_fresh named
  · rw [named]
    exact congrArg Except.ok same.symm
  · rw [rest]
  · change (r.store.slot p.name e'.key).config = [] at empty
    change _ = if e'.key.isTruthy then _ else _
    rw [key] at empty ⊢
    have read := overlays r.store empty
    rw [rest]
    change PluginStore.configuration _ p.name e'.key = _
    rw [key]
    exact read

end Router

theorem Key.isTruthy_reduced (n : Int) (places : Nat) : (reduced n places).isTruthy = (n != 0) := by
  induction places generalizing n with
  | zero => rfl
  | succ places ih =>
    unfold reduced
    split
    · next whole =>
      rw [ih, Bool.eq_iff_iff, bne_iff_ne, bne_iff_ne]
      omega
    · rfl

theorem Double.expansion_eq_zero (x : Double) : x.expansion.1 = 0 ↔ x.significand = 0 := by
  unfold expansion
  split <;> simp

theorem Value.isTruthy_key {v : Value} (hashable : v.key? ≠ none) :
    v.key.isTruthy = v.isTruthy := by
  cases v with
  | bool b => cases b <;> rfl
  | decimal negative digits places =>
    have key := Key.isTruthy_reduced
      (if negative then -((Double.ofDecimal digits places).expansion.1 : Int)
        else (Double.ofDecimal digits places).expansion.1)
      (Double.ofDecimal digits places).expansion.2
    refine key.trans ?_
    rw [isTruthy, Bool.eq_iff_iff, bne_iff_ne, bne_iff_ne, Ne, Ne, ← Double.expansion_eq_zero]
    cases negative <;> simp
  | list | record => exact absurd rfl hashable
  | null | int | text => rfl

theorem Value.isTruthy_of_key {v : Value} (truthy : v.key.isTruthy = true) : v.isTruthy = true := by
  by_cases hashable : v.key? = none
  · rw [Value.key, hashable] at truthy
    cases truthy
  · rwa [← isTruthy_key hashable]

theorem Exec.getConfig_of_hashable {r : RouterRef} {w : World} {p : Plugin} {name : Value}
    (own : (w.router r).IsOwn "get_config") (tier : (w.router r).tier ≠ .plain)
    (attached : p ∈ (w.router r).plugins) (hashable : Failure.keyOf name = .ok name.key) :
    getConfig r (.text p.name) name w =
      ⟨.done, .ok (.value (.record ((w.router r).store.configuration p.name
        (if name.isTruthy then name.key else .null)))), w⟩ := by
  have reached : pluggable r "get_config" (.several 2) w = ⟨.done, .ok (w.router r), w⟩ := by
    unfold pluggable
    rw [bind_apply, router_apply, Ended.andThen_ok, bind_apply,
      (Router.expect_eq_ok_iff ..).2 own]
    cases ht : (w.router r).tier with
    | plain => exact absurd ht tier
    | pluggable => rfl
    | application => rfl
  obtain ⟨q, found, called⟩ := Router.plugin?_of_mem attached
  unfold getConfig pluginName
  rw [bind_apply, reached]
  simp only [Ended.andThen_ok, bind_apply, pure_apply, found, called, Course.done_append]
  by_cases truthy : name.isTruthy = true
  · simp [truthy, hashable, lift, bind_apply]
  · simp [truthy, bind_apply]

namespace Dispatch

theorem Layer.wrap_of_log {l : Layer} (logs : l.plugin.pluginClass.hook = .log) (next : Exec Value)
    (w : World) :
    let r := w.router l.router
    let settings := LogSettings.ofConfig (r.store.configuration l.plugin.name l.entry.key)
    l.wrap next w =
      if settings.enabled then l.report r.name settings next w else next w := by
  unfold wrap
  rw [logs]
  simp only [log, Exec.bind_apply, Exec.router_apply, Ended.andThen_ok, Course.done_append]
  split <;> rfl

end Dispatch

open Dispatch in
/-- A handler that a router with plugins took with options for one of them, under a name that counts
as one and for which nothing was configured, has the configuration for all handlers, overlaid with
its options, of which the flags come last. A plugin that logs acts on that. -/
theorem World.register_overlays_options {w : World} {self : RouterRef} {h : Handler} {error : Bool}
    {name : Value} {derived : Option String} {options : Assoc Value} {p : Plugin}
    (tier : (w.router self).tier ≠ .plain) (attached : p ∈ (w.router self).plugins)
    (known : p.name ∈ Assoc.names w.pluginClasses) (own : (w.router self).IsOwn "get_config")
    (some : Options.takenBy p.name options ≠ [])
    (done : (w.register self h error name derived options).1 = .ok ()) :
    let given := Options.takenBy p.name options
    let v := (w.register self h error name derived options).2
    ∃ e flags, (w.router self).Gains [e] (v.router self) ∧ e.handler = h ∧ p ∈ e.layers ∧
      (w.router self).entryName name (w.derivedName h derived) = .ok e.name ∧
      Plugin.flagsOf ((Assoc.get? given "flags").getD .null) = .ok flags ∧
      (((w.router self).store.slot p.name e.key).config = [] → e.key.isTruthy = true →
        let common := (w.router self).store.configuration p.name .null
        let merged := Assoc.merge common (Assoc.merge (Assoc.erase given "flags") flags)
        (∀ option, Assoc.get? merged option = (Assoc.get? flags option).or
          ((Assoc.get? (Assoc.erase given "flags") option).or (Assoc.get? common option))) ∧
        Exec.getConfig self (.text p.name) e.name v = ⟨.done, .ok (.value (.record merged)), v⟩ ∧
        (p.pluginClass.hook = .log → ∀ next,
          let settings := Layer.LogSettings.ofConfig merged
          Layer.wrap ⟨self, p, e.name⟩ next v =
            if settings.enabled then
              Layer.report ⟨self, p, e.name⟩ (v.router self).name settings next v
            else next v)) := by
  obtain ⟨r', registered, answer⟩ := World.register_eq_ok done
  obtain ⟨e, flags, gains, handler, layered, named, rest, sets, overlays⟩ :=
    Router.register_overlays tier attached known some registered
  rw [answer]
  dsimp only
  rw [router_setRouter_self]
  refine ⟨e, flags, gains, handler, layered, named, sets, fun empty truthy => ?_⟩
  have read := overlays empty
  rw [if_pos truthy] at read
  have distinct := Plugin.distinct_overlaid (Options.distinct_takenBy p.name options) flags
  refine ⟨fun option => ?_, ?_, fun logs next => ?_⟩
  · have all := Assoc.get?_merge distinct ((w.router self).store.configuration p.name .null) option
    rw [Plugin.overlaid, Assoc.get?_merge (Plugin.distinct_flagsOf sets)] at all
    rw [all, Option.or_assoc]
  · have asked := Exec.getConfig_of_hashable (r := self) (w := w.setRouter self r') (p := p)
      (by rw [router_setRouter_self, rest]; exact own)
      (by rw [router_setRouter_self, rest]; exact tier)
      (by rw [router_setRouter_self, rest]; exact attached) (Router.keyOf_entryName named)
    rw [asked, if_pos (Value.isTruthy_of_key truthy), router_setRouter_self]
    exact congrArg (fun config => (⟨.done, .ok (.value (.record config)), _⟩ : Ended Reply)) read
  · have wraps := Layer.wrap_of_log (l := ⟨self, p, e.name⟩) logs next (w.setRouter self r')
    dsimp only at wraps
    rw [router_setRouter_self, show e.name.key = e.key from rfl, read] at wraps
    exact wraps

def loggingOnly : World :=
  (Exec.plug 0 (.text "logging") [] none (Small.world [Small.newRouter])).world

def loggingPlugin : Plugin := ⟨.logging, .standard⟩

theorem router_loggingOnly :
    loggingOnly.router 0 = { Small.newRouter with
      plugins := [loggingPlugin]
      store := [("logging", [(everyHandler, { config := [("enabled", .bool true)] })])] } := by
  cbv

/-- An option for logging, and flags that contradict it. -/
def chattyOptions : Assoc Value :=
  [("logging_flags", .text "before"), ("logging_before", .bool false)]

/-- What the options of a handler come to, with what there is for all handlers. -/
def chattyConfig : Assoc Value :=
  [("enabled", .bool true), ("before", .bool true)]

theorem chattyOptions_overlay :
    let answer := loggingOnly.register 0 (.callback (Small.action [])) false (.text "report") none
      chattyOptions
    answer.1 = .ok () ∧
      Exec.getConfig 0 (.text "logging") (.text "report") answer.2 =
        ⟨.done, .ok (.value (.record chattyConfig)), answer.2⟩ ∧
      Dispatch.Layer.wrap ⟨0, loggingPlugin, .text "report"⟩ (pure (.bool true)) answer.2 =
        Dispatch.Layer.report ⟨0, loggingPlugin, .text "report"⟩ (answer.2.router 0).name
          (.ofConfig chattyConfig) (pure (.bool true)) answer.2 := by
  have done : (loggingOnly.register 0 (.callback (Small.action [])) false (.text "report") none
      chattyOptions).1 = .ok () := by cbv
  have given : Options.takenBy "logging" chattyOptions =
      [("flags", .text "before"), ("before", .bool false)] := by cbv
  have read : Plugin.flagsOf (.text "before") = .ok [("before", .bool true)] := by cbv
  have known : loggingPlugin.name ∈ Assoc.names loggingOnly.pluginClasses :=
    List.mem_of_elem_eq_true (by cbv)
  have code : loggingPlugin.name = "logging" := rfl
  obtain ⟨e, flags, -, -, -, named, sets, overlays⟩ := World.register_overlays_options
    (p := loggingPlugin) (by rw [router_loggingOnly]; decide)
    (by rw [router_loggingOnly]; exact List.mem_singleton_self _) known
    (by rw [router_loggingOnly]; rfl) (by rw [code, given]; simp) done
  rw [router_loggingOnly] at named
  have called : e.name = .text "report" := (Except.ok.inj named).symm
  rw [code, given] at sets
  have set : [("before", Value.bool true)] = flags :=
    Except.ok.inj (read.symm.trans sets)
  subst set
  have key : e.key = .text "report" := congrArg Value.key called
  rw [key, code, router_loggingOnly, called, given] at overlays
  obtain ⟨-, asked, wraps⟩ := overlays rfl rfl
  exact ⟨done, asked, wraps rfl _⟩

/-- The handler of the empty route, registered with an option for logging. -/
def emptyRouteLogged : Except Failure Unit × World :=
  loggingOnly.register 0 (.route .empty (Small.action [])) false .null none
    [("logging_before", .bool true)]

theorem emptyRouteLogged_outcome :
    (emptyRouteLogged.1, (emptyRouteLogged.2.router 0).handlers.map Entry.name,
        (emptyRouteLogged.2.router 0).store,
        (Exec.getConfig 0 (.text "logging") (.text "") emptyRouteLogged.2).result) =
      (.ok (), [.text ""],
        [("logging", [(everyHandler, { config := [("enabled", .bool true)] }),
          (.text "", { config := [("before", .bool true)] })])],
        .ok (.value (.record [("enabled", .bool true)]))) := by cbv

/-- The option is accepted and stored under the name of the entry, which is empty. Neither asking
for the configuration nor the layer of the plugin reads it there. -/
theorem emptyRouteLogged_unread :
    let store := (emptyRouteLogged.2.router 0).store
    emptyRouteLogged.1 = .ok () ∧
      (emptyRouteLogged.2.router 0).handlers.map Entry.name = [.text ""] ∧
      ((loggingOnly.router 0).store.slot "logging" (.text "")).config = [] ∧
      (store.slot "logging" (.text "")).config = [("before", .bool true)] ∧
      (Exec.getConfig 0 (.text "logging") (.text "") emptyRouteLogged.2).result =
        .ok (.value (.record [("enabled", .bool true)])) ∧
      Assoc.merge ((loggingOnly.router 0).store.configuration "logging" .null)
        [("before", .bool true)] ≠ [("enabled", .bool true)] ∧
      (Dispatch.Layer.LogSettings.ofConfig
        (store.configuration "logging" (.text ""))).before = false := by
  have outcome := emptyRouteLogged_outcome
  simp only [Prod.mk.injEq] at outcome
  obtain ⟨done, names, store, asked⟩ := outcome
  dsimp only
  rw [store, router_loggingOnly]
  refine ⟨done, names, rfl, rfl, asked, fun same => ?_, rfl⟩
  cases congrArg List.length same

end HandlerChains
