import HandlerChains.Proofs.Plugin.Telling
import HandlerChains.Proofs.Router.Names

/-!
# A registration and an attachment

Two ways lead to an entry with a plugin around it: it is registered with a router that has the
plugin, or the plugin is attached to a router that has the entry. Where the second one succeeds, and
plugins go by the entries that they are told of, the first one does too, and it makes the same
router of it, up to the order in which the store keeps what it holds.
-/

namespace HandlerChains

namespace Router

/-- Two routers that differ at most in the order in which their stores keep what they hold. -/
def Alike (r s : Router) : Prop := ∃ store, s = { r with store } ∧ r.store.Same store

namespace Alike

variable {r s t : Router}

theorem refl (r : Router) : Alike r r := ⟨r.store, rfl, .refl _⟩

theorem symm (h : Alike r s) : Alike s r := by
  obtain ⟨store, rfl, same⟩ := h
  exact ⟨r.store, rfl, same.symm⟩

theorem trans (h : Alike r s) (h' : Alike s t) : Alike r t := by
  obtain ⟨store, rfl, same⟩ := h
  obtain ⟨store', rfl, same'⟩ := h'
  exact ⟨store', rfl, same.trans same'⟩

theorem plugins_eq (h : Alike r s) : s.plugins = r.plugins := by
  obtain ⟨store, rfl, -⟩ := h
  rfl

theorem children_eq (h : Alike r s) : s.children = r.children := by
  obtain ⟨store, rfl, -⟩ := h
  rfl

theorem entries_eq (h : Alike r s) : s.entries = r.entries := by
  obtain ⟨store, rfl, -⟩ := h
  rfl

theorem append (h : Alike r s) (e : Entry) : Alike (r.append e) (s.append e) := by
  obtain ⟨store, rfl, same⟩ := h
  unfold Router.append
  split
  · exact ⟨store, rfl, same⟩
  · exact ⟨store, rfl, same⟩

end Alike

variable {r r' r₁ r₂ s : Router} {p : Plugin} {ps : List Plugin} {e e' : Entry}
variable {shared : Set Key}

@[simp] theorem plugins_append (r : Router) (e : Entry) : (r.append e).plugins = r.plugins := by
  unfold append
  split <;> rfl

@[simp] theorem plugins_attached (r : Router) (p : Plugin) (store : PluginStore)
    (hs fs : List Entry) : (r.attached p store hs fs).plugins = r.plugins ++ [p] := rfl

theorem mem_entries_append : e' ∈ (r.append e).entries ↔ e' ∈ r.entries ∨ e' = e := by
  unfold append entries
  split
  · simp [or_assoc]
  · simp only [List.mem_append, List.mem_singleton]
    tauto

theorem isOwn_append (r : Router) (e : Entry) (name : String) :
    (r.append e).IsOwn name ↔ r.IsOwn name := by
  unfold append
  split <;> rfl

theorem entries_append_ne_nil (r : Router) (e : Entry) : (r.append e).entries ≠ [] := by
  unfold append entries
  split <;> simp

section

variable {codes : List String} {h : Handler} {error : Bool} {name : Value}
variable {derived : Except Failure Value} {found : Except Failure Unit} {options : Assoc Value}

theorem map_entries_attached {α : Type} {f : Entry → α}
    (kept : ∀ e layers, f (e.layered layers) = f e) (r : Router) (p : Plugin) (store : PluginStore)
    (hs fs : List Entry) : (r.attached p store hs fs).entries.map f = (hs ++ fs).map f := by
  have unlayered : ∀ es : List Entry,
      (es.map fun e => { e with layers := r.plugins ++ [p] }).map f = es.map f := by
    intro es
    rw [List.map_map]
    exact List.map_congr_left fun e _ => kept e _
  simp only [entries, attached, List.map_append, unlayered]

theorem keys_attached {store : PluginStore} {hs fs : List Entry}
    (fitted : List.Forall₂ (Entry.FittedWith [p]) r.entries (hs ++ fs)) :
    (r.attached p store hs fs).keys = r.keys := by
  rw [keys, map_entries_attached (fun _ _ => rfl), Entry.FittedWith.map_eq Entry.FittedWith.key_eq
    fitted, keys]

theorem OwnsAttaching.of_append {store : PluginStore}
    (own : ({ r.append e with store } : Router).OwnsAttaching) (store' : PluginStore) :
    ({ r with store := store' } : Router).OwnsAttaching ∧ r.IsOwn "_apply_plugin" ∧
      r.IsOwn "_create_wrapper" := by
  have same : ∀ {name}, (r.append e).IsOwn name → r.IsOwn name := (isOwn_append r e _).1
  have inside : ∀ {name}, (r.append e).entries = [] ∨ (r.append e).IsOwn name → r.IsOwn name :=
    fun is => same (is.resolve_left (entries_append_ne_nil r e))
  exact ⟨⟨same own.list, same own.rebuild, .inr (inside own.fit), .inr (inside own.wrap),
    .inr (inside own.layer)⟩, inside own.fit, inside own.layer⟩

variable [Telling] {registry : Assoc PluginClass} {plugin : Value} {config : Assoc Value}
variable {logger : Option Logger}

theorem register_alike (tells : ∀ p ∈ r.plugins, p.TellsByEntry shared) (alike : Alike r s)
    (registered : r.register codes h error name derived found options = (.ok (), r')) :
    ∃ s', s.register codes h error name derived found options = (.ok (), s') ∧ Alike r' s' := by
  obtain ⟨store, rfl, same⟩ := alike
  obtain ⟨leads, own, e, fit, made, fitted, rfl⟩ := register_iff.1 registered
  obtain ⟨layers, fitted⟩ := (fittingAll_iff tells).1 fitted
  obtain ⟨store', fitted', same'⟩ :=
    (fittingAll_within tells e).same fitted ({ r with store }, e.layers) same
  have own' : ({ r with store } : Router).OwnsRegistering :=
    ⟨own.after, own.wrap, own.fit, own.layer⟩
  refine ⟨_, register_iff.2 ⟨leads, own', e, ⟨store', fit.entry⟩, made,
    (fittingAll_iff tells).2 ⟨layers, fitted'⟩, rfl⟩, ?_⟩
  exact .append ⟨store', rfl, same'⟩ _

theorem attach_fitting_iff (tells : p.TellsByEntry shared) :
    r.attach p = (.ok (), r') ↔
      r.OwnsAttaching ∧ ∃ store hs fs,
        p.fittingEach r.entries
            (fun done left =>
              ({ r with plugins := r.plugins ++ [p] }.withEntries (done ++ left)).storeless)
            r.store (hs ++ fs) store ∧
          hs.length = r.handlers.length ∧ r' = r.attached p store hs fs := by
  rw [attach_iff]
  refine and_congr_right fun own => exists_congr fun store => exists_congr fun hs =>
    exists_congr fun fs => and_congr_left fun _ => ?_
  rw [fitEach_iff tells]
  exact ⟨fun fitted => fitted.2, fun fitted => ⟨own.fit, fitted⟩⟩

theorem plug_fitting (tells : ∀ p ∈ r'.plugins, p.TellsByEntry shared)
    (plugged : r.plug registry plugin config logger = (.ok (), r')) :
    ∃ p given opened stored hs fs,
      r.chosen registry plugin config logger = .ok (p, given) ∧ p.TellsByEntry shared ∧
      p.opening given () r.store () opened ∧
      ({ r with store := opened } : Router).OwnsAttaching ∧
      p.fittingEach r.entries
        (fun done left =>
          ({ r with plugins := r.plugins ++ [p] }.withEntries (done ++ left)).storeless)
        opened (hs ++ fs) stored ∧
      hs.length = r.handlers.length ∧ r' = r.attached p stored hs fs := by
  obtain ⟨p, given, opened, chosen, opens, attaches⟩ := plug_iff.1 plugged
  have goes : p.TellsByEntry shared := by
    obtain ⟨-, _, _, _, -, -, rfl⟩ := attach_iff.1 attaches
    exact tells p (by simp)
  obtain ⟨own, stored, hs, fs, each, length, rfl⟩ := (attach_fitting_iff goes).1 attaches
  exact ⟨p, given, opened, stored, hs, fs, chosen, goes, opens, own, each, length, rfl⟩

theorem plug_alike (tells : ∀ p ∈ r'.plugins, p.TellsByEntry shared) (alike : Alike r s)
    (plugged : r.plug registry plugin config logger = (.ok (), r')) :
    ∃ s', s.plug registry plugin config logger = (.ok (), s') ∧ Alike r' s' := by
  obtain ⟨store, rfl, same⟩ := alike
  obtain ⟨p, given, opened, stored, hs, fs, chosen, goes, opens, own, fitted, length, rfl⟩ :=
    plug_fitting tells plugged
  obtain ⟨opened', opens', same⟩ := (p.opening_within given).same opens () same
  obtain ⟨stored', fitted', same⟩ := (fittingEach_within goes r.entries).same fitted
    (fun done left =>
      ({ r with plugins := r.plugins ++ [p] }.withEntries (done ++ left)).storeless) same
  have own' : ({ r with store := opened' } : Router).OwnsAttaching :=
    ⟨own.list, own.rebuild, own.fit, own.wrap, own.layer⟩
  refine ⟨_, plug_iff.2 ⟨p, given, opened', chosen, opens', (attach_fitting_iff goes).2
    ⟨own', stored', hs, fs, fitted', length, rfl⟩⟩, stored', rfl, same⟩

/-! ## What stays as it is -/

theorem plugins_register
    (registered : r.register codes h error name derived found options = (.ok (), r')) :
    r'.plugins = r.plugins := by
  obtain ⟨-, -, e, fit, -, -, rfl⟩ := register_iff.1 registered
  rw [plugins_append]

theorem entries_register (registered : r.register codes h error name derived found options =
    (.ok (), r')) : r.entries ⊆ r'.entries := by
  obtain ⟨-, -, e, fit, -, -, rfl⟩ := register_iff.1 registered
  exact fun e' old => mem_entries_append.2 (.inl old)

theorem plugins_plug (plugged : r.plug registry plugin config logger = (.ok (), r')) :
    ∃ p given, r.chosen registry plugin config logger = .ok (p, given) ∧
      r'.plugins = r.plugins ++ [p] := by
  obtain ⟨p, given, opened, chosen, -, attaches⟩ := plug_iff.1 plugged
  obtain ⟨-, stored, hs, fs, -, -, rfl⟩ := attach_iff.1 attaches
  exact ⟨p, given, chosen, rfl⟩

theorem keys_plug (tells : ∀ p ∈ r'.plugins, p.TellsByEntry shared)
    (plugged : r.plug registry plugin config logger = (.ok (), r')) : r'.keys = r.keys := by
  obtain ⟨p, given, opened, stored, hs, fs, -, goes, -, -, fitted, -, rfl⟩ :=
    plug_fitting tells plugged
  exact keys_attached (fittedWith_of_fittingEach goes fitted)

/-- A router whose plugins go by the entries that they are told of, and hold what they share under
keys that no entry has. -/
structure Independent (shared : Set Key) (r : Router) : Prop where
  plugins : Plugin.Independent shared r.plugins
  free : ∀ e ∈ r.entries, e.key ∉ shared

theorem Independent.alike (independent : r.Independent shared) (alike : Alike r s) :
    s.Independent shared where
  plugins := alike.plugins_eq ▸ independent.plugins
  free := alike.entries_eq ▸ independent.free

theorem Independent.before_register (independent : r'.Independent shared)
    (registered : r.register codes h error name derived found options = (.ok (), r')) :
    r.Independent shared where
  plugins := plugins_register registered ▸ independent.plugins
  free e mem := independent.free e (entries_register registered mem)

theorem Independent.before_plug (independent : r'.Independent shared)
    (plugged : r.plug registry plugin config logger = (.ok (), r')) : r.Independent shared where
  plugins := by
    obtain ⟨p, given, -, plugins⟩ := plugins_plug plugged
    exact (plugins ▸ independent.plugins).of_append
  free e mem := by
    have key : e.key ∈ r'.keys :=
      keys_plug independent.plugins.tells plugged ▸ List.mem_map_of_mem mem
    obtain ⟨e', mem', is⟩ := List.mem_map.1 key
    exact is ▸ independent.free e' mem'

/-! ## One before the other -/

end

end Router
end HandlerChains
