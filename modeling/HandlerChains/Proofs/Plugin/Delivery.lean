import HandlerChains.Example.Routers
import HandlerChains.Proofs.Plugin.OtherHandlers

/-!
# Where registration options go

An option whose name starts with the code of a registered plugin and an underscore goes to that
plugin, without this start. The other options are metadata. One place for each option is what this
comes to where no code starts with another one and an underscore. With such codes an option goes to
all plugins that it could be meant for.
-/

namespace HandlerChains

namespace Options

variable {code name key : String} {codes : List String} {options : Assoc Value} {v : Value}

/-- An option is for a plugin if its name starts with the code of the plugin and an underscore. -/
def IsFor (code name : String) : Prop := ∃ rest, name = code ++ "_" ++ rest

/-- What a plugin calls an option. It is what stands behind its code and the underscore, if that is
no reserved word. -/
def renamed (rest : String) : String := if rest = "class" then "_class" else rest

/-- Whether no plugin option is called like another one once it is renamed. -/
def ClassApart (code : String) (options : Assoc Value) : Prop :=
  ¬ (Assoc.has options (code ++ "_" ++ "class") = true ∧
    Assoc.has options (code ++ "_" ++ "_class") = true)

theorem nameFor?_eq_some :
    nameFor? code name = some key ↔ ∃ rest, name = code ++ "_" ++ rest ∧ renamed rest = key := by
  have word : ∀ rest : List Char, rest = "class".toList ↔ String.ofList rest = "class" := fun _ =>
    ⟨fun same => same ▸ String.ofList_toList, fun same => same ▸ String.toList_ofList.symm⟩
  have split : ∀ rest : List Char,
      name.toList = (code ++ "_").toList ++ rest ↔ name = code ++ "_" ++ String.ofList rest := by
    intro rest
    rw [← String.toList_inj, String.toList_append (s := code ++ "_"), String.toList_ofList]
  rw [nameFor?, Option.map_eq_some_iff]
  constructor
  · rintro ⟨rest, starts, rfl⟩
    refine ⟨String.ofList rest, (split rest).1 (Site.dropStart?_eq_some.1 starts), ?_⟩
    simp only [renamed, word]
  · rintro ⟨rest, rfl, rfl⟩
    refine ⟨rest.toList, Site.dropStart?_eq_some.2 (String.toList_append ..), ?_⟩
    simp only [renamed, word, String.ofList_toList]

theorem nameFor?_eq_none : nameFor? code name = none ↔ ¬ IsFor code name := by
  rw [Option.eq_none_iff_forall_ne_some]
  constructor
  · rintro none ⟨rest, eq⟩
    exact none _ (nameFor?_eq_some.2 ⟨rest, eq, rfl⟩)
  · intro none key found
    obtain ⟨rest, eq, -⟩ := nameFor?_eq_some.1 found
    exact none ⟨rest, eq⟩

/-- If an option could be meant for two plugins, the longer code starts like an option for the
other plugin. -/
theorem IsFor.eq_or {other : String} (first : IsFor code name) (second : IsFor other name) :
    code = other ∨ IsFor code other ∨ IsFor other code := by
  obtain ⟨rest, rfl⟩ := first
  obtain ⟨rest', same⟩ := second
  rw [← String.toList_inj] at same
  simp only [String.toList_append, List.append_assoc] at same
  have cut : ∀ {a b c d : List Char}, a ++ ('_' :: c) = b ++ ('_' :: d) → a.length < b.length →
      ∃ e, b = a ++ '_' :: e := by
    intro a b c d same less
    have start : a ++ ['_'] <+: b ++ ('_' :: d) := ⟨c, by rw [List.append_assoc]; exact same⟩
    obtain ⟨e, eq⟩ := List.prefix_of_prefix_length_le start ⟨_, rfl⟩ (by simpa using less)
    exact ⟨e, by rw [← eq, List.append_assoc]; rfl⟩
  have text : ∀ {a b : String} {e : List Char}, b.toList = a.toList ++ '_' :: e → IsFor a b := by
    intro a b e eq
    refine ⟨String.ofList e, ?_⟩
    rw [← String.toList_inj, eq]
    simp
  rcases Nat.lt_trichotomy code.toList.length other.toList.length with less | even | more
  · obtain ⟨e, eq⟩ := cut same less
    exact .inr (.inl (text eq))
  · exact .inl (String.toList_inj.1 (List.append_inj same even).1)
  · obtain ⟨e, eq⟩ := cut same.symm more
    exact .inr (.inr (text eq))

theorem get?_metadata_of_free (free : ∀ code ∈ codes, ¬ IsFor code name) :
    Assoc.get? (metadata codes options) name = Assoc.get? options name :=
  Assoc.get?_filter_of_true (p := fun name => codes.all fun code => (nameFor? code name).isNone)
    (List.all_eq_true.2 fun code known =>
      Option.isNone_iff_eq_none.2 (nameFor?_eq_none.2 (free code known))) options

theorem get?_metadata_of_isFor (known : code ∈ codes) (isFor : IsFor code name) :
    Assoc.get? (metadata codes options) name = none := by
  refine Assoc.get?_eq_none fun listed => ?_
  obtain ⟨row, mem, rfl⟩ := List.mem_map.1 listed
  exact nameFor?_eq_none.1 ((mem_metadata.1 mem).2 code known) isFor

theorem mem_renamed :
    (key, v) ∈ (options.filterMap fun (name, v) => (nameFor? code name).map fun rest => (rest, v)) ↔
      ∃ rest, (code ++ "_" ++ rest, v) ∈ options ∧ renamed rest = key := by
  rw [List.mem_filterMap]
  constructor
  · rintro ⟨⟨name, u⟩, mem, eq⟩
    obtain ⟨key', found, eq⟩ := Option.map_eq_some_iff.1 eq
    cases eq
    obtain ⟨rest, rfl, rfl⟩ := nameFor?_eq_some.1 found
    exact ⟨rest, mem, rfl⟩
  · rintro ⟨rest, mem, rfl⟩
    exact ⟨_, mem, by simp only [nameFor?_eq_some.2 ⟨rest, rfl, rfl⟩, Option.map_some]⟩

theorem of_get?_takenBy (distinct : Assoc.Distinct options)
    (found : Assoc.get? (takenBy code options) key = some v) :
    ∃ rest, Assoc.get? options (code ++ "_" ++ rest) = some v ∧ renamed rest = key := by
  obtain none | mem := Assoc.mem_of_get?_merge found
  · cases none
  · obtain ⟨rest, mem, eq⟩ := mem_renamed.1 mem
    exact ⟨rest, Assoc.get?_of_mem distinct mem, eq⟩

theorem renamed_mem_names_takenBy {rest : String}
    (given : Assoc.get? options (code ++ "_" ++ rest) = some v) :
    renamed rest ∈ Assoc.names (takenBy code options) := by
  have listed := List.mem_map_of_mem (f := Prod.fst)
    (mem_renamed.2 ⟨rest, Assoc.mem_of_get? given, rfl⟩)
  rw [takenBy, Assoc.names_merge]
  exact List.mem_append_right _ (List.mem_eraseDups.2 (List.mem_filter.2 ⟨listed, rfl⟩))

theorem renamed_eq_renamed {a b : String} (same : renamed a = renamed b) :
    a = b ∨ a = "class" ∧ b = "_class" ∨ a = "_class" ∧ b = "class" := by
  unfold renamed at same
  split at same <;> split at same <;> simp_all

theorem get?_takenBy {rest : String} (distinct : Assoc.Distinct options)
    (apart : ClassApart code options)
    (given : Assoc.get? options (code ++ "_" ++ rest) = some v) :
    Assoc.get? (takenBy code options) (renamed rest) = some v := by
  obtain ⟨u, found⟩ := Option.isSome_iff_exists.1
    (Assoc.has_iff_mem_names.2 (renamed_mem_names_takenBy given))
  obtain ⟨rest', given', same⟩ := of_get?_takenBy distinct found
  have has : ∀ {name : String} {u : Value}, Assoc.get? options name = some u →
      Assoc.has options name = true := fun found => Option.isSome_iff_exists.2 ⟨_, found⟩
  obtain rfl | ⟨rfl, rfl⟩ | ⟨rfl, rfl⟩ := renamed_eq_renamed same
  · rw [found, ← given', given]
  · exact absurd ⟨has given', has given⟩ apart
  · exact absurd ⟨has given, has given'⟩ apart

theorem takenBy_ne_nil (given : Assoc.get? options name = some v) (isFor : IsFor code name) :
    takenBy code options ≠ [] := by
  obtain ⟨rest, rfl⟩ := isFor
  intro empty
  have listed := renamed_mem_names_takenBy given
  rw [empty] at listed
  cases listed

theorem get?_forPlugins_eq (known : code ∈ codes) :
    Assoc.get? (forPlugins codes options) code =
      if takenBy code options = [] then none else some (.record (takenBy code options)) := by
  split
  · next empty =>
    refine Assoc.get?_eq_none fun listed => ?_
    obtain ⟨row, mem, rfl⟩ := List.mem_map.1 listed
    obtain ⟨⟨code, taken⟩, paired, some⟩ := List.mem_filterMap.1 mem
    obtain ⟨_, -, eq⟩ := List.mem_map.1 paired
    cases eq
    dsimp only at some
    split at some
    · cases some
    · next given =>
      cases some
      exact given (List.isEmpty_iff.2 empty)
  · next given => exact get?_forPlugins known given

theorem forPlugins_eq_nil :
    forPlugins codes options = [] ↔ ∀ code ∈ codes, takenBy code options = [] := by
  rw [forPlugins, List.filterMap_eq_nil_iff, List.forall_mem_map]
  simp

end Options

namespace Router

open Options

variable {r r' : Router} {codes : List String} {options : Assoc Value} {code name : String}
variable {ps : List Plugin} {e e' : Entry} {ws : List Write}

theorem get?_entryMetadata (tier : r.tier ≠ .plain) (other : name ≠ "plugin_config") :
    Assoc.get? (r.entryMetadata codes options) name = Assoc.get? (metadata codes options) name := by
  unfold entryMetadata
  split
  · next plain => exact absurd plain tier
  all_goals
    dsimp only
    split
    · rfl
    · exact Assoc.get?_put_of_ne _ _ other

theorem get?_entryMetadata_settings (tier : r.tier ≠ .plain) :
    Assoc.get? (r.entryMetadata codes options) "plugin_config" =
      if ∀ code ∈ codes, takenBy code options = [] then Assoc.get? options "plugin_config"
      else some (.record (forPlugins codes options)) := by
  have all : Options.forPlugins codes options = [] →
      Assoc.get? (metadata codes options) "plugin_config" = Assoc.get? options "plugin_config" := by
    intro none
    by_cases free : ∀ code ∈ codes, ¬ IsFor code "plugin_config"
    · exact get?_metadata_of_free free
    · push Not at free
      obtain ⟨code, known, isFor⟩ := free
      rw [get?_metadata_of_isFor known isFor]
      cases given : Assoc.get? options "plugin_config" with
      | none => rfl
      | some v => exact absurd (forPlugins_eq_nil.1 none code known) (takenBy_ne_nil given isFor)
  unfold entryMetadata
  split
  · next plain => exact absurd plain tier
  all_goals
    simp only [← forPlugins_eq_nil, List.isEmpty_iff]
    split
    · next none => exact all none
    · exact Assoc.get?_put_self ..

/-- The options that a new entry has for a registered plugin are those that were given for it,
unless settings for plugins were given as an option and all others are metadata. -/
theorem optionsIn_entryMetadata_eq (tier : r.tier ≠ .plain) (known : code ∈ codes)
    (split : (∃ code ∈ codes, takenBy code options ≠ []) ∨
      Assoc.get? options "plugin_config" = none) :
    Plugin.optionsIn (r.entryMetadata codes options) code = .ok (takenBy code options) := by
  by_cases given : takenBy code options = []
  · unfold Plugin.optionsIn
    rw [get?_entryMetadata_settings tier, given]
    by_cases none : ∀ code ∈ codes, takenBy code options = []
    · have absent := split.resolve_left fun ⟨code, known, given⟩ => given (none code known)
      rw [if_pos none, absent]
    · rw [if_neg none]
      dsimp only
      rw [get?_forPlugins_eq known, if_pos given]
  · exact optionsIn_entryMetadata tier known given

end Router

namespace Plugin

variable {p : Plugin} {e e' : Entry} {ws : List Write} {name : String}

/-- What a plugin that is told of an entry changes in the metadata is its count of such entries. -/
theorem get?_metadata_of_told {metadata : Assoc Value} (told : p.onRegister e = .ok metadata)
    (uncounted : name = "counted" → p.pluginClass.hook ≠ .count) :
    Assoc.get? metadata name = Assoc.get? e.metadata name := by
  unfold onRegister at told
  dsimp only at told
  split at told
  · next counts =>
    split at told
    · cases told
      exact Assoc.get?_put_of_ne _ _ fun same => uncounted same counts
    · cases told
  · split at told
    · split at told <;> cases told
      rfl
    · cases told
  all_goals
    cases told
    rfl

end Plugin

namespace Router

theorem FitsAll.get?_metadata {ps : List Plugin} {e e' : Entry} {ws : List Write} {name : String}
    (fits : FitsAll ps e ws e')
    (uncounted : name = "counted" → ∀ p ∈ ps, p.pluginClass.hook ≠ .count) :
    Assoc.get? e'.metadata name = Assoc.get? e.metadata name := by
  induction fits with
  | nil e => rfl
  | @cons p ps e e' e'' ws vs first rest ih =>
    have later := ih fun counted q mem => uncounted counted q (List.mem_cons_of_mem p mem)
    obtain ⟨-, -, -, metadata, told, rfl⟩ := first.steps []
    exact later.trans (Plugin.get?_metadata_of_told (e := p.listed e) told
      fun counted => uncounted counted p List.mem_cons_self)

end Router

namespace Options

/-- Where options of a registration can go: into the metadata of the handler, or to a plugin. -/
inductive Destination where
  | metadata
  | plugin (code : String)

/-- What there is of an option in a place: the option itself in the metadata, and among the options
that the handler has for a registered plugin the one without the code and the underscore. -/
def Destination.Has (codes : List String) (e : Entry) (name : String) (v : Value) :
    Destination → Prop
  | .metadata => Assoc.get? e.metadata name = some v
  | .plugin code => code ∈ codes ∧ ∃ rest given, name = code ++ "_" ++ rest ∧
      Plugin.optionsIn e.metadata code = .ok given ∧
      Assoc.get? given (renamed rest) = some v

/-- One place has an option that goes where its name says, if no code starts like an option for
another plugin. -/
theorem Destination.existsUnique_has {codes : List String} {e : Entry} {option : String} {v : Value}
    (metadata : Destination.metadata.Has codes e option v ↔ ∀ code ∈ codes, ¬ IsFor code option)
    (plugins : ∀ code, (Destination.plugin code).Has codes e option v ↔
      code ∈ codes ∧ IsFor code option)
    (apart : ∀ code ∈ codes, ∀ other ∈ codes, ¬ IsFor code other) :
    ∃! place : Destination, place.Has codes e option v := by
  by_cases free : ∀ code ∈ codes, ¬ IsFor code option
  · refine ⟨.metadata, metadata.2 free, fun place has => ?_⟩
    cases place with
    | metadata => rfl
    | plugin code =>
      obtain ⟨known, isFor⟩ := (plugins code).1 has
      exact absurd isFor (free code known)
  · push Not at free
    obtain ⟨code, known, isFor⟩ := free
    refine ⟨.plugin code, (plugins code).2 ⟨known, isFor⟩, fun place has => ?_⟩
    cases place with
    | metadata => exact absurd isFor (metadata.1 has code known)
    | plugin other =>
      obtain ⟨known', isFor'⟩ := (plugins other).1 has
      obtain rfl | longer | longer := isFor.eq_or isFor'
      · rfl
      · exact absurd longer (apart code known other known')
      · exact absurd longer (apart other known' code known)

/-- An entry with the metadata that a registration with these options has given it. The options that
are `Kept` are no business of the plugins that were told of the entry. -/
structure Delivered (codes : List String) (options : Assoc Value) (Kept : String → Prop)
    (e : Entry) : Prop where
  kept : ∀ option, Kept option →
    Assoc.get? e.metadata option = Assoc.get? (metadata codes options) option
  settings : Assoc.get? e.metadata "plugin_config" =
    if ∀ code ∈ codes, takenBy code options = [] then Assoc.get? options "plugin_config"
    else some (.record (forPlugins codes options))
  reads : ∀ code ∈ codes, (∃ code ∈ codes, takenBy code options ≠ []) ∨
    Assoc.get? options "plugin_config" = none →
    Plugin.optionsIn e.metadata code = .ok (takenBy code options)

namespace Delivered

variable {codes : List String} {options : Assoc Value} {Kept : String → Prop} {e : Entry}
variable {option : String} {value : Value}

theorem has_metadata (h : Delivered codes options Kept e) (keeps : Kept option)
    (given : Assoc.get? options option = some value) :
    Destination.metadata.Has codes e option value ↔ ∀ code ∈ codes, ¬ IsFor code option := by
  unfold Destination.Has
  dsimp only
  rw [h.kept option keeps]
  constructor
  · intro found code known isFor
    rw [get?_metadata_of_isFor known isFor] at found
    cases found
  · intro free
    rw [get?_metadata_of_free free, given]

theorem has_plugin (h : Delivered codes options Kept e) (distinct : Assoc.Distinct options)
    (given : Assoc.get? options option = some value) {code : String}
    (apart : code ∈ codes → ClassApart code options) :
    (Destination.plugin code).Has codes e option value ↔ code ∈ codes ∧ IsFor code option := by
  constructor
  · rintro ⟨known, rest, -, rfl, -⟩
    exact ⟨known, rest, rfl⟩
  · rintro ⟨known, rest, rfl⟩
    have some := takenBy_ne_nil given ⟨rest, rfl⟩
    exact ⟨known, rest, _, rfl, h.reads code known (.inl ⟨code, known, some⟩),
      get?_takenBy distinct (apart known) given⟩

theorem existsUnique_has (h : Delivered codes options Kept e) (distinct : Assoc.Distinct options)
    (keeps : Kept option) (given : Assoc.get? options option = some value)
    (apart : ∀ code ∈ codes, ClassApart code options ∧ ∀ other ∈ codes, ¬ IsFor code other) :
    ∃! place : Destination, place.Has codes e option value :=
  Destination.existsUnique_has (h.has_metadata keeps given)
    (fun code => h.has_plugin distinct given fun known => (apart code known).1)
    fun code known => (apart code known).2

theorem of_metadata (h : Delivered codes options Kept e) (keeps : Kept option)
    (found : Assoc.get? e.metadata option = some value) :
    Assoc.get? options option = some value := by
  rw [h.kept option keeps] at found
  by_cases free : ∀ code ∈ codes, ¬ IsFor code option
  · rwa [get?_metadata_of_free free] at found
  · push Not at free
    obtain ⟨code, known, isFor⟩ := free
    rw [get?_metadata_of_isFor known isFor] at found
    cases found

end Delivered
end Options

open Options

/-- What an entry gets when it is made, the plugins that are told of it leave to it, except for a
count of entries. -/
theorem Router.newEntry_delivers {r : Router} {codes : List String} {h : Handler} {error : Bool}
    {name : Value} {derived : Except Failure Value} {options : Assoc Value} {e e' : Entry}
    {ps : List Plugin} {ws : List Write} (tier : r.tier ≠ .plain)
    (made : r.newEntry codes h error name derived options = .ok e) (fits : FitsAll ps e ws e') :
    Delivered codes options (fun option => option ≠ "plugin_config" ∧
        (option = "counted" → ∀ p ∈ ps, p.pluginClass.hook ≠ .count))
      { e' with layers := ps } := by
  obtain ⟨-, name', -, rfl⟩ := Router.newEntry_eq_ok_iff.1 made
  refine ⟨fun option kept => ?_, ?_, fun code known split => ?_⟩
  · exact (fits.get?_metadata kept.2).trans (Router.get?_entryMetadata tier kept.1)
  · exact (fits.get?_metadata fun counted => absurd counted (by decide)).trans
      (Router.get?_entryMetadata_settings tier)
  · exact (fits.optionsIn_eq code).trans (Router.optionsIn_entryMetadata_eq tier known split)

/-- A registration delivers each option by its name: one that is for no registered plugin is in the
metadata as it was given, and one that is for registered plugins is among the options that the
handler has for each of them, without the code and the underscore, and nowhere else. That is one
place if no registered code starts like an option for another plugin. Nothing else is in these
places. Settings of all plugins that are given as an option make way for what plugins get, and an
attached plugin that counts its handlers changes its count. -/
theorem World.register_delivers {w : World} {self : RouterRef} {h : Handler} {error : Bool}
    {name : Value} {derived : Option String} {options : Assoc Value}
    (tier : (w.router self).tier ≠ .plain) (distinct : Assoc.Distinct options)
    (done : (w.register self h error name derived options).1 = .ok ()) :
    let codes := Assoc.names w.pluginClasses
    let v := (w.register self h error name derived options).2
    let Kept := fun option : String => option ≠ "plugin_config" ∧
      (option = "counted" → ∀ p ∈ (w.router self).plugins, p.pluginClass.hook ≠ .count)
    ∃ e, (w.router self).Gains [e] (v.router self) ∧ e.handler = h ∧
      (∀ option value, Assoc.get? options option = some value → Kept option →
        (Destination.metadata.Has codes e option value ↔ ∀ code ∈ codes, ¬ IsFor code option) ∧
        (∀ code, ClassApart code options → ((Destination.plugin code).Has codes e option value ↔
          code ∈ codes ∧ IsFor code option)) ∧
        ((∀ code ∈ codes, ClassApart code options ∧ ∀ other ∈ codes, ¬ IsFor code other) →
          ∃! place : Destination, place.Has codes e option value)) ∧
      (∀ option value, Kept option → Assoc.get? e.metadata option = some value →
        Assoc.get? options option = some value) ∧
      (∀ code ∈ codes, (∃ code ∈ codes, takenBy code options ≠ []) ∨
          Assoc.get? options "plugin_config" = none →
        ∃ given, Plugin.optionsIn e.metadata code = .ok given ∧
          ∀ key value, Assoc.get? given key = some value →
            ∃ rest, Assoc.get? options (code ++ "_" ++ rest) = some value ∧ renamed rest = key) ∧
      Assoc.get? e.metadata "plugin_config" =
        if ∀ code ∈ codes, takenBy code options = [] then Assoc.get? options "plugin_config"
        else some (.record (forPlugins codes options)) := by
  intro codes v Kept
  obtain ⟨r', registered, answer⟩ := World.register_eq_ok done
  obtain ⟨-, -, e, ws, e', made, fits, rfl⟩ := Router.register_eq_ok_iff.1 registered
  have delivered : Delivered codes options Kept { e' with layers := (w.router self).plugins } :=
    Router.newEntry_delivers tier made fits
  obtain ⟨free, name', rfl⟩ := Router.newEntry_fresh made
  have gains : (w.router self).Gains [{ e' with layers := (w.router self).plugins }]
      (v.router self) := by
    change (w.router self).Gains _ ((w.register self h error name derived options).2.router self)
    rw [answer, router_setRouter_self]
    exact Router.gains_append (fits.key_eq.symm ▸ free) _
  refine ⟨_, gains, fits.eq_of_kept Plugin.Fits.handler_eq, fun option value given keeps => ?_,
    fun option value keeps => delivered.of_metadata keeps, fun code known split => ?_,
    delivered.settings⟩
  · exact ⟨delivered.has_metadata keeps given,
      fun code apart => delivered.has_plugin distinct given fun _ => apart,
      delivered.existsUnique_has distinct keeps given⟩
  · exact ⟨_, delivered.reads code known split, fun key value => of_get?_takenBy distinct⟩

/-- A world with two plugins. Neither has a code that starts like an option of the other one. -/
def twoPlugins : World :=
  { Small.world [Small.newRouter] with
    pluginClasses := [("logging", .logging), ("counting", .counting)] }

def mixedOptions : Assoc Value := [("owner", .text "us"), ("counting_limit", .int 5)]

theorem twoPlugins_delivers :
    let answer := twoPlugins.register 0 (.callback (Small.action [])) false (.text "report") none
      mixedOptions
    (twoPlugins.router 0).tier ≠ .plain ∧ Assoc.Distinct mixedOptions ∧ answer.1 = .ok () ∧
      ∃ e, (twoPlugins.router 0).Gains [e] (answer.2.router 0) ∧
        (∃! place : Destination, place.Has ["logging", "counting"] e "owner" (.text "us")) ∧
        ∃! place : Destination, place.Has ["logging", "counting"] e "counting_limit" (.int 5) := by
  have tier : (twoPlugins.router 0).tier ≠ .plain := by decide
  have distinct : Assoc.Distinct mixedOptions := by
    unfold Assoc.Distinct
    decide
  have done : (twoPlugins.register 0 (.callback (Small.action [])) false (.text "report") none
      mixedOptions).1 = .ok () := by cbv
  have apart : ∀ code ∈ Assoc.names twoPlugins.pluginClasses, ClassApart code mixedOptions ∧
      ∀ other ∈ Assoc.names twoPlugins.pluginClasses, ¬ IsFor code other := by
    have all : ((Assoc.names twoPlugins.pluginClasses).all fun code =>
        !(Assoc.has mixedOptions (code ++ "_" ++ "class") &&
          Assoc.has mixedOptions (code ++ "_" ++ "_class")) &&
        (Assoc.names twoPlugins.pluginClasses).all fun other =>
          (nameFor? code other).isNone) = true := by cbv
    simpa only [List.all_eq_true, Bool.and_eq_true, Bool.not_eq_true', Bool.and_eq_false_iff,
      Bool.not_eq_true, not_and_or, Option.isNone_iff_eq_none, nameFor?_eq_none, ClassApart]
      using all
  obtain ⟨e, gains, -, delivered, -⟩ := World.register_delivers tier distinct done
  refine ⟨tier, distinct, done, e, gains, ?_, ?_⟩
  · exact (delivered "owner" (.text "us") rfl ⟨by decide, by decide⟩).2.2 apart
  · exact (delivered "counting_limit" (.int 5) rfl ⟨by decide, by decide⟩).2.2 apart

/-- A world in which one plugin has a code that starts like an option of another one. -/
def nestedCodes : World := Small.world [Small.newRouter]

def ambiguousOptions : Assoc Value := [("outer_trace_loud", .int 1)]

/-- Both plugins get the option. -/
theorem nestedCodes_delivers_twice :
    let answer := nestedCodes.register 0 (.callback (Small.action [])) false (.text "report") none
      ambiguousOptions
    let codes := Assoc.names nestedCodes.pluginClasses
    answer.1 = .ok () ∧ ∃ e, (answer.2.router 0).handlers = [e] ∧
      (Destination.plugin "outer").Has codes e "outer_trace_loud" (.int 1) ∧
      (Destination.plugin "outer_trace").Has codes e "outer_trace_loud" (.int 1) ∧
      ¬ ∃! place : Destination, place.Has codes e "outer_trace_loud" (.int 1) := by
  intro answer codes
  have done : answer.1 = .ok () := by cbv
  have known : "outer" ∈ codes ∧ "outer_trace" ∈ codes := by decide
  have metadata : (answer.2.router 0).handlers.map Entry.metadata =
      [[("plugin_config", .record [("outer", .record [("trace_loud", .int 1)]),
        ("outer_trace", .record [("loud", .int 1)])])]] := by cbv
  obtain ⟨e, made, metadata⟩ := List.map_eq_singleton_iff.1 metadata
  have first : (Destination.plugin "outer").Has codes e "outer_trace_loud" (.int 1) :=
    ⟨known.1, "trace_loud", _, by decide, by rw [metadata]; rfl, rfl⟩
  have second : (Destination.plugin "outer_trace").Has codes e "outer_trace_loud" (.int 1) :=
    ⟨known.2, "loud", _, by decide, by rw [metadata]; rfl, rfl⟩
  exact ⟨done, e, made, first, second, fun one => by simpa using one.unique first second⟩

end HandlerChains
