import HandlerChains.Proofs.Site.BasePath
import HandlerChains.Proofs.Tables
import HandlerChains.Site.Config

/-!
# Paths of a site

However a configuration is made, and whatever is assigned to it under public names, its path is a
text. So it has a base path, what it makes of a route is the base path followed by the route, and
what it takes away from a path is the base path.
-/

namespace HandlerChains
namespace SiteConfig

variable {c c' : SiteConfig} {settings : Assoc Value}

/-- The configurations that are made of settings, of a URL or of a value, and those that come of
them by assignments under public names. -/
inductive Made : SiteConfig → Prop
  | ofSettings {settings : Assoc Value} {c : SiteConfig} (made : ofSettings settings = .ok c) :
      Made c
  | ofUrl {url : Value} {settings : Assoc Value} {c : SiteConfig}
      (made : ofUrl url settings = .ok c) : Made c
  | ofValue {v : Value} {c : SiteConfig} (made : ofValue v = .ok c) : Made c
  | assign {c c' : SiteConfig} (before : Made c) {name : String} {v : Value}
      (isPublic : name.startsWith "_" = false) (assigned : c.assign name v = .ok c') : Made c'

/-- A configuration whose settings with a place of their own, and no others, are among its settings,
the path as a text. -/
structure Proper (c : SiteConfig) : Prop where
  path : ∃ v, Assoc.get? c.settings "path" = some v ∧ ∃ s, v = .text s
  own : ∀ name ∈ Assoc.names c.settings, Assoc.has rules name = true
  further : ∀ name ∈ Assoc.names c.extraFields, Assoc.has rules name = false

theorem rule_of_has {name : String} (place : Assoc.has rules name = true) :
    rules.problem? name = Options.Accepts.text.problem? := by
  have known : name = "scheme" ∨ name = "host" ∨ name = "path" := by
    by_contra other
    simp only [not_or] at other
    obtain ⟨scheme, host, path⟩ := other
    simp [rules, Assoc.has, Assoc.get?, Ne.symm scheme, Ne.symm host, Ne.symm path] at place
  obtain rfl | rfl | rfl := known <;> rfl

theorem text_of_accepted (accepted : (refusals settings).isEmpty = true) {row : String × Value}
    (mem : row ∈ settings) (place : Assoc.has rules row.1 = true) : ∃ s, row.2 = .text s := by
  have fine : (rules.problem? row.1 row.2).map (fun p => (⟨some row.1, p⟩ : Options.Refusal)) =
      none := by
    have sorted := List.isEmpty_iff.1 accepted
    unfold refusals Options.Rules.check Options.sortRefusals at sorted
    have none := ((List.mergeSort_perm ..).symm.trans (.of_eq sorted)).eq_nil
    exact List.filterMap_eq_nil_iff.1 none row (List.mem_filter.2 ⟨mem, place⟩)
  rw [Option.map_eq_none_iff, rule_of_has place] at fine
  cases value : row.2 with
  | text s => exact ⟨s, rfl⟩
  | _ =>
    rw [value] at fine
    cases fine

theorem mem_names_ownSettings {name : String} (mem : name ∈ Assoc.names (ownSettings settings)) :
    Assoc.has rules name = true := by
  obtain ⟨row, listed, rfl⟩ := List.mem_map.1 mem
  exact (List.mem_filter.1 listed).2

theorem mem_names_furtherSettings {name : String}
    (mem : name ∈ Assoc.names (furtherSettings settings)) : Assoc.has rules name = false := by
  obtain ⟨row, listed, rfl⟩ := List.mem_map.1 mem
  simpa using (List.mem_filter.1 listed).2

theorem ofSettings_proper (made : ofSettings settings = .ok c) : c.Proper := by
  unfold ofSettings at made
  cases expanded : expandUrl settings with
  | error f =>
    rw [expanded] at made
    cases made
  | ok settings =>
    rw [expanded] at made
    dsimp only [bind, Except.bind] at made
    split at made
    · next accepted =>
      cases made
      refine ⟨Assoc.get?_merge_of_all ⟨.text "", rfl, "", rfl⟩ fun row mem _ => ?_,
        fun name mem => ?_, fun name mem => ?_⟩
      · obtain ⟨mem, place⟩ := List.mem_filter.1 mem
        exact text_of_accepted accepted mem place
      · obtain fixed | given := Assoc.mem_names_merge mem
        · have all : ∀ name ∈ Assoc.names defaults, Assoc.has rules name = true := by decide
          exact all name fixed
        · exact mem_names_ownSettings given
      · obtain empty | given := Assoc.mem_names_merge mem
        · cases empty
        · exact mem_names_furtherSettings given
    · cases made

theorem assignChecked_proper (proper : c.Proper) {name : String} {v : Value}
    (assigned : c.assignChecked name v = .ok c') : c'.Proper := by
  unfold assignChecked at assigned
  cases checks : c.expectChecker with
  | error f =>
    rw [checks] at assigned
    cases assigned
  | ok _ =>
    rw [checks] at assigned
    dsimp only [bind, Except.bind] at assigned
    split at assigned
    · cases assigned
    · next accepted =>
      split at assigned
      · cases assigned
      · cases assigned
        refine ⟨?_, fun name mem => mem_names_ownSettings mem,
          fun name mem => mem_names_furtherSettings mem⟩
        have kept : ∀ settings : Assoc Value,
            Assoc.get? (ownSettings settings) "path" = Assoc.get? settings "path" :=
          Assoc.get?_filter_of_true (p := Assoc.has rules) rfl
        dsimp only
        rw [kept]
        by_cases here : name = "path"
        · subst here
          have text := text_of_accepted (by simpa using accepted) (List.mem_singleton_self _) rfl
          exact ⟨v, Assoc.get?_put_self .., text⟩
        · rw [Assoc.get?_put_of_ne _ _ (Ne.symm here)]
          refine Assoc.get?_merge_of_all proper.path fun row mem same => ?_
          have none := proper.further row.1 (List.mem_map_of_mem mem)
          rw [same] at none
          cases none

theorem Made.proper (made : c.Made) : c.Proper := by
  induction made with
  | ofSettings made => exact ofSettings_proper made
  | ofUrl made =>
    unfold SiteConfig.ofUrl at made
    split at made
    · cases made
    · exact ofSettings_proper made
  | ofValue made =>
    unfold SiteConfig.ofValue at made
    split at made
    · exact ofSettings_proper made
    · cases made
  | @assign c c' before name v isPublic assigned proper =>
    unfold SiteConfig.assign at assigned
    cases sets : c.expectSetter name with
    | error f =>
      rw [sets] at assigned
      cases assigned
    | ok _ =>
      rw [sets] at assigned
      dsimp only [bind, Except.bind] at assigned
      rw [isPublic] at assigned
      split at assigned
      · cases assigned
      · exact assignChecked_proper proper assigned

theorem Made.paths (made : c.Made) :
    ∃ s, Assoc.get? c.settings "path" = some (.text s) ∧ c.basePath = .ok (Site.wrapPath s) ∧
      (∀ route, c.makePath (.text route) = .ok (Site.wrapPath s ++ route)) ∧
      ∀ path, c.removePath (.text path) = .ok (Site.routeBelow? (Site.wrapPath s) path) := by
  obtain ⟨⟨v, path, s, rfl⟩, own, -⟩ := made.proper
  have base : c.basePath = .ok (Site.wrapPath s) := by
    unfold basePath get
    rw [path]
    rfl
  have reaches : ∀ method, Assoc.has rules method = false → c.reach method = .ok () := by
    intro method apart
    unfold reach
    cases found : Assoc.get? c.settings method with
    | none => rfl
    | some v =>
      have listed := own method (List.mem_map_of_mem (Assoc.mem_of_get? found))
      rw [apart] at listed
      cases listed
  refine ⟨s, path, base, fun route => ?_, fun path => ?_⟩
  · unfold makePath
    rw [reaches "make_path" rfl, base]
    rfl
  · unfold removePath
    rw [reaches "remove_path" rfl, base]
    rfl

/-- The site takes a path that leads to a route for this route, and the path that it makes of a
route leads back to the route. -/
theorem Made.leads_back (made : c.Made) {base : String} (own : c.basePath = .ok base)
    (path : String) :
    (∃ found, c.removePath (.text path) = .ok found ∧
      ∀ route, found = some route ↔ Site.LeadsTo base path route) ∧
    ∀ route, ∃ link, c.makePath (.text route) = .ok link ∧ Site.LeadsTo base link route := by
  obtain ⟨s, -, wrapped, makes, removes⟩ := made.paths
  obtain rfl : base = Site.wrapPath s := Except.ok.inj (own.symm.trans wrapped)
  exact ⟨⟨_, removes path, Site.routeBelow?_eq_some s path⟩,
    fun route => ⟨_, makes route, .inl rfl⟩⟩

end SiteConfig
end HandlerChains
