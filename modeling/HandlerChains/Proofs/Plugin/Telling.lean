import HandlerChains.Proofs.Plugin.Footprint
import HandlerChains.Proofs.Router.Attaching
import Mathlib.Data.List.Forall2

/-!
# Plugins that go by the entry

What a plugin does when it is told of an entry is up to it. It is there to annotate the metadata of
the entry, and to keep data for itself and the entry in the store of the router. A plugin that goes
by nothing else than the entry, these data, and what it holds apart from all entries, such as its
configuration for all handlers, does the same whenever it is told of the entry, however many plugins
and other entries its router has by then.
-/

namespace HandlerChains

def Entry.layered (e : Entry) (layers : List Plugin) : Entry := { e with layers }

theorem Entry.layered_congr {e e' : Entry} {layers : List Plugin}
    (same : e'.layered layers = e.layered layers) (layers' : List Plugin) :
    e'.layered layers' = e.layered layers' := by
  have again := congrArg (Entry.layered · layers') same
  exact again

theorem Entry.layered_of_eq {e : Entry} {layers : List Plugin} (same : e.layers = layers) :
    e.layered layers = e := by
  rw [← same]
  rfl

/-- Telling a plugin of an entry that has its name, its handler, its plugins and its metadata. By
what router, and what is around the calls of the entry by then, are circumstances. -/
def Plugin.telling [Telling] (p : Plugin) (e : Entry) :
    Step (Router × List Plugin) (Assoc Value) :=
  fun i s metadata t =>
    (Telling.tell p { i.1 with store := s }).run ⟨s, e.layered i.2⟩ =
      (.ok (), ⟨t, { e.layered i.2 with metadata }⟩)

/-- What plugins are told of entries for: to make notes in the metadata of the entry, and to keep
data for themselves and the entry. They go by the entry, by what they keep for it, and by what they
hold under the keys in `shared`, which are there for no entry of its own. -/
structure Plugin.TellsByEntry [Telling] (p : Plugin) (shared : Set Key) : Prop where
  notes : ∀ {r s s'}, (Telling.tell p r).run s = (.ok (), s') →
    ∃ metadata, s'.entry = { s.entry with metadata }
  within : ∀ e, (p.telling e).Within {(p.name, e.key)} {place | place.1 = p.name ∧ place.2 ∈ shared}

/-- A plugin that keeps no data goes by the entry if the metadata do that it leaves. -/
theorem Plugin.TellsByEntry.of_notes [Telling] {p : Plugin} {shared : Set Key}
    (note : Entry → PluginStore → Except Failure (Assoc Value))
    (told_iff : ∀ {r s s'}, (Telling.tell p r).run s = (.ok (), s') ↔
      ∃ metadata, note s.entry s.store = .ok metadata ∧
        s' = { s with entry := { s.entry with metadata } })
    (unlayered : ∀ e layers, note (e.layered layers) = note e)
    (again : ∀ e {s s'},
      PluginStore.SameAt ({(p.name, e.key)} ∪ {place | place.1 = p.name ∧ place.2 ∈ shared}) s s' →
        note e s = note e s') :
    p.TellsByEntry shared where
  notes told := by
    obtain ⟨metadata, -, rfl⟩ := told_iff.1 told
    exact ⟨metadata, rfl⟩
  within e := by
    have telling_iff : ∀ {i s metadata t}, p.telling e i s metadata t ↔
        note e s = .ok metadata ∧ t = s := by
      intro i s metadata t
      unfold telling
      rw [told_iff, unlayered]
      constructor
      · rintro ⟨metadata', noted, is⟩
        cases is
        exact ⟨noted, rfl⟩
      · rintro ⟨noted, rfl⟩
        exact ⟨metadata, noted, rfl⟩
    constructor
    · intro i s metadata t told
      obtain ⟨-, rfl⟩ := telling_iff.1 told
      exact fun _ _ => rfl
    · intro i s metadata t told j s' same
      obtain ⟨noted, rfl⟩ := telling_iff.1 told
      exact ⟨s', telling_iff.2 ⟨again e same ▸ noted, rfl⟩, same.mono Set.subset_union_left⟩

/-- The metadata of an entry with a note of how a plugin is configured for it. -/
def Plugin.note (p : Plugin) (e : Entry) (store : PluginStore) : Assoc Value :=
  Assoc.put e.metadata p.name (.record (store.configuration p.name e.key))

@[reducible]
def noting : Telling where
  tell p _ := modify fun s =>
    { s with entry := { s.entry with metadata := p.note s.entry s.store } }

/-- Plugins that note how they are configured go by what they hold for all handlers, too. -/
theorem noting_tellsByEntry (p : Plugin) : @Plugin.TellsByEntry noting p {everyHandler} := by
  refine @Plugin.TellsByEntry.of_notes noting p _ (fun e store => .ok (p.note e store))
    (fun {r s s'} => ?_) (fun _ _ => rfl) fun e s s' same => ?_
  · constructor
    · rintro ⟨⟩
      exact ⟨_, rfl, rfl⟩
    · rintro ⟨_, ⟨⟩, rfl⟩
      rfl
  · have held : ∀ {target}, target = e.key ∨ target = everyHandler →
        s.slot p.name target = s'.slot p.name target := by
      intro target here
      rw [PluginStore.slot_eq, PluginStore.slot_eq, same (p.name, target) ?_]
      exact here.imp (congrArg (Prod.mk p.name)) fun every => ⟨rfl, every⟩
    simp only [Plugin.note, PluginStore.configuration, held (.inl rfl), held (.inr rfl)]

/-! ## What is made of an entry -/

section

variable {p : Plugin} {ps : List Plugin} {e e' : Entry}

/-- An entry after some plugins were fitted to it: each of them is listed, if they have different
names, and each was told of it. -/
structure Entry.FittedWith (ps : List Plugin) (e e' : Entry) : Prop where
  told : e'.told = e.told ++ ps
  listed : (e.plugins ++ ps.map Plugin.name).Nodup → e'.plugins = e.plugins ++ ps.map Plugin.name
  rest : ∃ plugins metadata told, e' = { e with plugins, metadata, told }

namespace Entry.FittedWith

theorem nil (e : Entry) : e.FittedWith [] e := ⟨by simp, by simp, ⟨_, _, _, rfl⟩⟩

theorem cons {e'' : Entry} (first : e.FittedWith [p] e') (later : e'.FittedWith ps e'') :
    e.FittedWith (p :: ps) e'' where
  told := by rw [later.told, first.told, List.append_assoc, List.singleton_append]
  listed distinct := by
    rw [List.map_cons, List.append_cons] at distinct ⊢
    have now := first.listed (List.nodup_append.1 distinct).1
    rw [List.map_singleton] at now
    rw [← now] at distinct ⊢
    exact later.listed distinct
  rest := by
    obtain ⟨_, _, _, rfl⟩ := first.rest
    obtain ⟨_, _, _, rfl⟩ := later.rest
    exact ⟨_, _, _, rfl⟩

theorem exists_of_mem {es es' : List Entry} (all : List.Forall₂ (FittedWith ps) es es')
    (mem : e' ∈ es') : ∃ e ∈ es, e.FittedWith ps e' := by
  induction all with
  | nil => cases mem
  | cons first _ ih =>
    rcases List.mem_cons.1 mem with rfl | later
    · exact ⟨_, List.mem_cons_self, first⟩
    · obtain ⟨e, old, fitted⟩ := ih later
      exact ⟨e, List.mem_cons_of_mem _ old, fitted⟩

theorem map_eq {α : Type} {f : Entry → α} (kept : ∀ {e e'}, e.FittedWith ps e' → f e' = f e)
    {es es' : List Entry} (all : List.Forall₂ (FittedWith ps) es es') : es'.map f = es.map f := by
  have same :=
    List.rel_map (R := FittedWith ps) (P := Eq) (fun _ _ fitted => (kept fitted).symm) all
  rw [List.forall₂_eq_eq_eq] at same
  exact same.symm

theorem key_eq (fitted : e.FittedWith ps e') : e'.key = e.key := by
  obtain ⟨_, _, _, rfl⟩ := fitted.rest
  rfl

theorem handler_eq (fitted : e.FittedWith ps e') : e'.handler = e.handler := by
  obtain ⟨_, _, _, rfl⟩ := fitted.rest
  rfl

theorem error_eq (fitted : e.FittedWith ps e') : e'.error = e.error := by
  obtain ⟨_, _, _, rfl⟩ := fitted.rest
  rfl

theorem layers_eq (fitted : e.FittedWith ps e') : e'.layers = e.layers := by
  obtain ⟨_, _, _, rfl⟩ := fitted.rest
  rfl

end Entry.FittedWith

end

/-! ## Fitting one entry -/

section

variable {p : Plugin} {ps : List Plugin} {e e' : Entry} {r : Router} {store : PluginStore}
variable {s : Fit} {shared : Set Key}

def Plugin.configuring (p : Plugin) (e : Entry) (options : Assoc Value) : Step Unit Unit :=
  fun _ s _ t =>
    (if options.isEmpty then .ok s else p.configureHandler s e.name options) = .ok t

theorem Plugin.configuring_within (p : Plugin) (e : Entry) (options : Assoc Value) :
    (p.configuring e options).Within {(p.name, e.key)} ∅ := by
  have writes : Writes p.name (· = e.key) fun store =>
      if options.isEmpty then .ok store else p.configureHandler store e.name options :=
    .ite .ok (p.configureHandler_writes e.name options)
  refine (Step.within_of_writes writes).mono (fun place here => ?_) subset_rfl
  exact Prod.ext here.1 here.2

def Plugin.opening (p : Plugin) (options : Assoc Value) : Step Unit Unit :=
  fun _ s _ t => p.configure (s.openBucket p.name) options = .ok t

theorem Plugin.opening_within (p : Plugin) (options : Assoc Value) :
    (p.opening options).Within {place | place.1 = p.name} ∅ := by
  have writes := Step.within_of_writes (ι := Unit) (p.configure_writes options)
  have steps := (Step.within_openBucket (ι := Unit) p.name).andThen fun _ =>
    writes.mono (fun place (here : place.1 = p.name ∧ True) => here.1) subset_rfl
  constructor
  · intro i s a t made
    exact steps.keeps (i := ((), ())) (a := ((), ())) ⟨_, rfl, made⟩
  · intro i s a t made j s' same
    obtain ⟨t', ⟨_, rfl, made'⟩, same⟩ :=
      steps.again (i := ((), ())) (a := ((), ())) ⟨_, rfl, made⟩ ((), ()) same
    exact ⟨t', made', same⟩

variable [Telling]

namespace Plugin.TellsByEntry

variable (tells : p.TellsByEntry shared)

include tells

/-- A plugin that fits an entry has listed it, written its options for it, and been told of it. -/
theorem fit_iff :
    (p.fit r).run ⟨store, e⟩ = (.ok (), s) ↔ ∃ options metadata,
      optionsIn e.metadata p.name = .ok options ∧
      ((p.configuring e options).andThen fun _ => p.telling (p.listed e)) ((), (r, e.layers)) store
        ((), metadata) s.store ∧
      s.entry = p.noted metadata (p.listed e) := by
  rw [fit_run]
  constructor
  · intro fitted
    cases found : optionsIn (p.listed e).metadata p.name with
    | error f =>
      rw [found] at fitted
      cases fitted
    | ok options =>
      rw [found] at fitted
      dsimp only at fitted
      split at fitted
      · cases fitted
      · next store' written =>
        rw [notify_run] at fitted
        rcases told : (Telling.tell p { r with store := store' }).run ⟨store', p.listed e⟩
          with ⟨f | _, t, noted⟩
        · rw [told] at fitted
          cases fitted
        · rw [told] at fitted
          cases fitted
          obtain ⟨metadata, rfl⟩ := tells.notes told
          exact ⟨options, metadata, found, ⟨store', written, told⟩, rfl⟩
  · rintro ⟨options, metadata, found, ⟨store', written, told⟩, noted⟩
    obtain ⟨t, f⟩ := s
    subst noted
    have told : (Telling.tell p { r with store := store' }).run ⟨store', p.listed e⟩ =
        (.ok (), ⟨t, { p.listed e with metadata }⟩) := told
    have found : optionsIn (p.listed e).metadata p.name = .ok options := found
    rw [found]
    dsimp only
    rw [show (if options.isEmpty then .ok store else p.configureHandler store e.name options) =
      .ok store' from written]
    dsimp only
    rw [notify_run, told]
    rfl

end Plugin.TellsByEntry

/-- Fitting a plugin to an entry, in circumstances as they are for telling it. The entry that comes
of it has the same layers. -/
def Plugin.fitting (p : Plugin) (e : Entry) : Step (Router × List Plugin) Entry :=
  fun i s e' t =>
    (p.fit i.1).run ⟨s, e.layered i.2⟩ = (.ok (), ⟨t, e'.layered i.2⟩)

theorem Plugin.TellsByEntry.fitting_within (tells : p.TellsByEntry shared) (e : Entry) :
    (p.fitting e).Within {(p.name, e.key)} {place | place.1 = p.name ∧ place.2 ∈ shared} := by
  have steps : ∀ options, ((p.configuring e options).andThen fun _ => p.telling (p.listed e)).Within
      {(p.name, e.key)} {place | place.1 = p.name ∧ place.2 ∈ shared} := fun options =>
    ((p.configuring_within e options).mono subset_rfl (Set.empty_subset _)).andThen fun _ =>
      tells.within (p.listed e)
  constructor
  · intro i s e' t fitted
    obtain ⟨options, metadata, -, made, -⟩ := tells.fit_iff.1 fitted
    exact (steps options).keeps made
  · intro i s e' t fitted j s' same
    obtain ⟨options, metadata, found, made, noted⟩ := tells.fit_iff.1 fitted
    obtain ⟨t', made', same⟩ := (steps options).again made ((), (j.1, j.2)) same
    refine ⟨t', tells.fit_iff.2 ⟨options, metadata, found, made', ?_⟩, same⟩
    exact congrArg (Entry.layered · j.2) noted

theorem Plugin.TellsByEntry.fittedWith (tells : p.TellsByEntry shared)
    (fitted : (p.fit r).run ⟨store, e⟩ = (.ok (), s)) : e.FittedWith [p] s.entry := by
  obtain ⟨options, metadata, -, -, noted⟩ := tells.fit_iff.1 fitted
  rw [noted]
  refine ⟨rfl, fun distinct => if_neg fun known => ?_, ⟨_, _, _, rfl⟩⟩
  exact (List.nodup_append.1 distinct).2.2 _ known _ (by simp) rfl

/-! ## Fitting all plugins to an entry -/

/-- Plugins of which no two have the same name, and each goes by the entries that it is told of. -/
structure Plugin.Independent (shared : Set Key) (ps : List Plugin) : Prop where
  distinct : (ps.map Plugin.name).Nodup
  tells : ∀ p ∈ ps, p.TellsByEntry shared

theorem Plugin.Independent.of_append {qs : List Plugin} (both : Independent shared (ps ++ qs)) :
    Independent shared ps where
  distinct := by
    have names := both.distinct
    rw [List.map_append] at names
    exact (List.nodup_append.1 names).1
  tells p mem := both.tells p (List.mem_append_left _ mem)

theorem forM_fit_cons :
    ((p :: ps).forM fun p => p.fit r).run ⟨store, e⟩ = (.ok (), s) ↔
      ∃ s', (p.fit r).run ⟨store, e⟩ = (.ok (), s') ∧
        (ps.forM fun p => p.fit r).run s' = (.ok (), s) := by
  change ((p.fit r) >>= fun _ => ps.forM fun p => p.fit r).run ⟨store, e⟩ = _ ↔ _
  rw [Fitting.run_bind]
  rcases (p.fit r).run ⟨store, e⟩ with ⟨f | _, s'⟩
  · exact ⟨nofun, fun ⟨_, first, _⟩ => nomatch first⟩
  · exact ⟨fun later => ⟨s', rfl, later⟩, fun ⟨_, first, later⟩ => by cases first; exact later⟩

/-- Fitting plugins to an entry one after another. -/
def Plugin.fittingAll (ps : List Plugin) (e : Entry) : Step (Router × List Plugin) Entry :=
  fun i s e' t =>
    (ps.forM fun p => p.fit i.1).run ⟨s, e.layered i.2⟩ = (.ok (), ⟨t, e'.layered i.2⟩)

theorem fittedWith_of_forM (tells : ∀ p ∈ ps, p.TellsByEntry shared)
    (fitted : (ps.forM fun p => p.fit r).run ⟨store, e⟩ = (.ok (), s)) :
    e.FittedWith ps s.entry := by
  induction ps generalizing store e with
  | nil =>
    cases fitted
    exact .nil e
  | cons p ps ih =>
    obtain ⟨⟨store', e'⟩, first, later⟩ := forM_fit_cons.1 fitted
    have now := (tells p List.mem_cons_self).fittedWith first
    exact now.cons (ih (fun q mem => tells q (List.mem_cons_of_mem p mem)) later)

theorem fittingAll_iff (tells : ∀ p ∈ ps, p.TellsByEntry shared) :
    (ps.forM fun p => p.fit r).run ⟨store, e⟩ = (.ok (), s) ↔
      s.entry.layers = e.layers ∧
        Plugin.fittingAll ps e (r, e.layers) store s.entry s.store := by
  constructor
  · intro fitted
    have layers := (fittedWith_of_forM tells fitted).layers_eq
    refine ⟨layers, ?_⟩
    unfold Plugin.fittingAll
    rw [Entry.layered_of_eq layers]
    exact fitted
  · rintro ⟨layers, fitted⟩
    unfold Plugin.fittingAll at fitted
    rw [Entry.layered_of_eq layers] at fitted
    exact fitted

theorem fittingAll_nil_iff {i : Router × List Plugin} {t : PluginStore} :
    Plugin.fittingAll [] e i store e' t ↔ t = store ∧ e'.layered i.2 = e.layered i.2 := by
  constructor
  · intro fitted
    have same := congrArg Prod.snd fitted
    exact ⟨(congrArg Fit.store same).symm, (congrArg Fit.entry same).symm⟩
  · rintro ⟨rfl, same⟩
    unfold Plugin.fittingAll
    rw [same]
    rfl

theorem fittingAll_cons_iff (tells : p.TellsByEntry shared) {i : Router × List Plugin}
    {t : PluginStore} :
    Plugin.fittingAll (p :: ps) e i store e' t ↔
      ∃ e₁, ((p.fitting e).andThen (Plugin.fittingAll ps)) (i, i) store (e₁, e') t := by
  unfold Plugin.fittingAll
  rw [forM_fit_cons]
  constructor
  · rintro ⟨⟨u, e₁⟩, first, later⟩
    have layers : e₁.layered i.2 = e₁ := Entry.layered_of_eq (tells.fittedWith first).layers_eq
    refine ⟨e₁, u, ?_, ?_⟩
    · rwa [← layers] at first
    · rwa [← layers] at later
  · rintro ⟨e₁, u, first, later⟩
    exact ⟨_, first, later⟩

theorem fittingAll_within (tells : ∀ p ∈ ps, p.TellsByEntry shared) (e : Entry) :
    (Plugin.fittingAll ps e).Within {place | place.1 ∈ ps.map Plugin.name ∧ place.2 = e.key}
      {place | place.1 ∈ ps.map Plugin.name ∧ place.2 ∈ shared} := by
  induction ps generalizing e with
  | nil =>
    constructor
    · intro i s e' t fitted
      obtain ⟨rfl, -⟩ := fittingAll_nil_iff.1 fitted
      exact fun _ _ => rfl
    · intro i s e' t fitted j s' same
      obtain ⟨rfl, is⟩ := fittingAll_nil_iff.1 fitted
      exact ⟨s', fittingAll_nil_iff.2 ⟨rfl, Entry.layered_congr is j.2⟩,
        same.mono Set.subset_union_left⟩
  | cons p ps ih =>
    have first := (tells p List.mem_cons_self).fitting_within e
    have steps : ((p.fitting e).andThen (Plugin.fittingAll ps)).Within
        {place | place.1 ∈ (p :: ps).map Plugin.name ∧ place.2 = e.key}
        {place | place.1 ∈ (p :: ps).map Plugin.name ∧ place.2 ∈ shared} := by
      refine (first.mono ?_ fun place here => ?_).andThen fun {i s e₁ t} fitted => ?_
      · rintro _ rfl
        exact ⟨List.mem_cons_self, rfl⟩
      · exact ⟨List.mem_cons.2 (.inl here.1), here.2⟩
      · have key : e₁.key = e.key := ((tells p List.mem_cons_self).fittedWith fitted).key_eq
        refine (ih (fun q mem => tells q (List.mem_cons_of_mem p mem)) e₁).mono
          (fun place here => ?_) fun place here => ⟨List.mem_cons_of_mem _ here.1, here.2⟩
        exact ⟨List.mem_cons_of_mem _ here.1, here.2.trans key⟩
    constructor
    · intro i s e' t fitted
      obtain ⟨e₁, made⟩ := (fittingAll_cons_iff (tells p List.mem_cons_self)).1 fitted
      exact steps.keeps made
    · intro i s e' t fitted j s' same
      obtain ⟨e₁, made⟩ := (fittingAll_cons_iff (tells p List.mem_cons_self)).1 fitted
      obtain ⟨t', made', same⟩ := steps.again made (j, j) same
      exact ⟨t', (fittingAll_cons_iff (tells p List.mem_cons_self)).2 ⟨e₁, made'⟩, same⟩

/-- Fitting a plugin to entries one after another. The circumstances are the routers that it is told
of them by, given what came of the entries before and those that are left. -/
def Plugin.fittingEach (p : Plugin) :
    List Entry → Step (List Entry → List Entry → Router) (List Entry)
  | [], _, s, es', t => es' = [] ∧ t = s
  | e :: es, i, s, es', t => ∃ e' es'', es' = e' :: es'' ∧ e'.layers = e.layers ∧
      ((p.fitting e).andThen fun _ => p.fittingEach es)
        ((i [] (e :: es), e.layers), fun done => i (e' :: done)) s (e', es'') t

theorem fittingEach_within (tells : p.TellsByEntry shared) (es : List Entry) :
    (p.fittingEach es).Within {place | place.1 = p.name ∧ place.2 ∈ es.map Entry.key}
      {place | place.1 = p.name ∧ place.2 ∈ shared} := by
  induction es with
  | nil =>
    constructor
    · rintro i s es' t ⟨rfl, rfl⟩
      exact fun _ _ => rfl
    · rintro i s es' t ⟨rfl, rfl⟩ j s' same
      exact ⟨s', ⟨rfl, rfl⟩, same.mono Set.subset_union_left⟩
  | cons e es ih =>
    have steps : ((p.fitting e).andThen fun _ => p.fittingEach es).Within
        {place | place.1 = p.name ∧ place.2 ∈ (e :: es).map Entry.key}
        {place | place.1 = p.name ∧ place.2 ∈ shared} := by
      refine ((tells.fitting_within e).mono ?_ subset_rfl).andThen fun _ =>
        ih.mono (fun place here => ?_) subset_rfl
      · rintro _ rfl
        exact ⟨rfl, List.mem_cons_self⟩
      · exact ⟨here.1, List.mem_cons_of_mem _ here.2⟩
    constructor
    · rintro i s _ t ⟨e', es', rfl, layers, made⟩
      exact steps.keeps made
    · rintro i s _ t ⟨e', es', rfl, layers, made⟩ j s' same
      obtain ⟨t', made', same⟩ := steps.again made _ same
      exact ⟨t', ⟨e', es', rfl, layers, made'⟩, same⟩

theorem fittedWith_of_fittingEach (tells : p.TellsByEntry shared) {es es' : List Entry}
    {i : List Entry → List Entry → Router} {t : PluginStore}
    (fitted : p.fittingEach es i store es' t) : List.Forall₂ (Entry.FittedWith [p]) es es' := by
  induction es generalizing i store es' with
  | nil =>
    obtain ⟨rfl, -⟩ := fitted
    exact .nil
  | cons e es ih =>
    obtain ⟨e', es', rfl, layers, u, first, rest⟩ := fitted
    refine .cons ?_ (ih rest)
    have now := tells.fittedWith first
    rwa [Entry.layered_of_eq layers] at now

namespace Router

/-- A router without its store, which plugins are shown as it is by then. -/
def storeless (r : Router) : Router := { r with store := [] }

/-- A router that fits a plugin to its entries shows it those that are done and those that are
left. -/
theorem fitEach_iff (tells : p.TellsByEntry shared) {done es es' : List Entry} {t : PluginStore} :
    r.fitEach p done es store = (.ok (), t, es') ↔
      (es = [] ∨ r.IsOwn "_apply_plugin") ∧
        p.fittingEach es (fun done' left => (r.withEntries (done ++ (done' ++ left))).storeless)
          store es' t := by
  induction es generalizing done store es' with
  | nil =>
    constructor
    · intro fitted
      cases fitted
      exact ⟨.inl rfl, rfl, rfl⟩
    · rintro ⟨-, rfl, rfl⟩
      rfl
  | cons e es ih =>
    have moved : ∀ e' : Entry,
        (fun done' left => (r.withEntries (done ++ [e'] ++ (done' ++ left))).storeless) =
          fun done' left => (r.withEntries (done ++ (e' :: done' ++ left))).storeless := by
      intro e'
      funext done' left
      rw [List.append_assoc]
      rfl
    rw [fitEach_cons_iff]
    constructor
    · rintro ⟨own, ⟨u, e'⟩, es', first, rest, rfl⟩
      have layers : e'.layers = e.layers := (tells.fittedWith first).layers_eq
      have later := (ih.1 rest).2
      rw [moved] at later
      refine ⟨.inr own, e', es', rfl, layers, u, ?_, later⟩
      rwa [← Entry.layered_of_eq layers] at first
    · rintro ⟨own, e', es', rfl, layers, u, first, later⟩
      have own : r.IsOwn "_apply_plugin" := own.resolve_left (by simp)
      unfold Plugin.fitting at first
      rw [Entry.layered_of_eq layers] at first
      refine ⟨own, ⟨u, e'⟩, es', first, ih.2 ⟨.inr own, ?_⟩, rfl⟩
      rw [moved]
      exact later

end Router

end
end HandlerChains
