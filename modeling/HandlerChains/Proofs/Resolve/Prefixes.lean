import HandlerChains.Proofs.Text.Fields
import HandlerChains.Resolve.Modules

/-!
# Prefixes of a dotted name

A search for a dotted name tries its prefixes, the longest one first, and each try loads the shorter
ones again. What is loaded stays loaded, and a module that fails changes nothing but the record of
what was executed, so that all tries stop at the same prefix for the same reason. The search ends
with that reason unless it says that this very prefix, or one that it lies in, is not there.
-/

namespace HandlerChains
namespace Modules

/-- Whether modules differ in the record of what was executed only. -/
def Alike (m m' : Modules) : Prop := ∃ executed, m' = { m with executed }

namespace Alike

variable {m m' m'' : Modules}

theorem refl (m : Modules) : Alike m m := ⟨m.executed, rfl⟩

theorem trans (first : Alike m m') (second : Alike m' m'') : Alike m m'' := by
  obtain ⟨_, rfl⟩ := first
  obtain ⟨executed, rfl⟩ := second
  exact ⟨executed, rfl⟩

theorem loaded (alike : Alike m m') : m'.loaded = m.loaded := by
  obtain ⟨_, rfl⟩ := alike
  rfl

variable (functions : Assoc Target)

theorem load (alike : Alike m m') (name : Name) :
    (Modules.load functions m' name).1 = (Modules.load functions m name).1 := by
  obtain ⟨_, rfl⟩ := alike
  unfold Modules.load
  dsimp only
  split
  · rfl
  · cases Assoc.get? m.sources (dotted name) with
    | none => rfl
    | some code =>
      dsimp only [execute]
      cases ModuleItem.putRows functions (dotted name) code.items <;> cases code.failure <;> rfl

theorem follow (alike : Alike m m') (item : ModuleItem) (attributes : List String) :
    Modules.follow m' item attributes = Modules.follow m item attributes := by
  obtain ⟨_, rfl⟩ := alike
  induction attributes generalizing item with
  | nil => rfl
  | cons name rest ih =>
    unfold Modules.follow
    simp only [ih]
    rfl

theorem resolvedAt (alike : Alike m m') (name : Name) (attributes : List String) :
    Modules.resolvedAt m' name attributes = Modules.resolvedAt m name attributes := by
  unfold Modules.resolvedAt
  rw [alike.follow]

end Alike

section

variable {functions : Assoc Target} {m m' : Modules} {name : Name} {names : List Name}

theorem load_of_loaded (loaded : Assoc.has m.loaded (dotted name) = true) :
    load functions m name = (.ok (), m) := by
  rw [load, if_pos loaded]

theorem has_put {α : Type} (t : Assoc α) (name : String) (v : α) {other : String}
    (known : other = name ∨ Assoc.has t other = true) :
    Assoc.has (Assoc.put t name v) other = true := by
  by_cases here : other = name
  · rw [Assoc.has, here, Assoc.get?_put_self]
    rfl
  · rw [Assoc.has, Assoc.get?_put_of_ne _ _ here]
    exact known.resolve_left here

theorem has_of_load (done : load functions m name = (.ok (), m')) {other : String}
    (known : other = dotted name ∨ Assoc.has m.loaded other = true) :
    Assoc.has m'.loaded other = true := by
  unfold load at done
  split at done
  · next loaded =>
    cases done
    exact known.elim (fun here => here ▸ loaded) id
  · split at done
    · unfold execute at done
      dsimp only at done
      split at done
      · cases done
      · cases done
      · cases done
        dsimp only
        split
        · exact has_put _ _ _ (.inr (has_put _ _ _ known))
        · exact has_put _ _ _ known
    · cases done

theorem alike_of_load {f : Failure} (failed : load functions m name = (.error f, m')) :
    Alike m m' := by
  unfold load at failed
  split at failed
  · cases failed
  · split at failed
    · unfold execute at failed
      dsimp only at failed
      split at failed
      · cases failed
        exact ⟨_, rfl⟩
      · cases failed
        exact ⟨_, rfl⟩
      · cases failed
    · cases failed
      exact .refl m

theorem loadEach_cons (functions : Assoc Target) (m : Modules) (name : Name) (names : List Name) :
    loadEach functions m (name :: names) = match load functions m name with
      | (.ok (), m) => loadEach functions m names
      | failed => failed := rfl

theorem loadEach_append (functions : Assoc Target) (m : Modules) (names more : List Name) :
    loadEach functions m (names ++ more) = match loadEach functions m names with
      | (.ok (), m) => loadEach functions m more
      | failed => failed := by
  induction names generalizing m with
  | nil => rfl
  | cons name names ih =>
    rw [List.cons_append, loadEach_cons, loadEach_cons]
    rcases load functions m name with ⟨f | _, m⟩
    · rfl
    · exact ih m

theorem loadEach_of_loaded (loaded : ∀ name ∈ names, Assoc.has m.loaded (dotted name) = true) :
    loadEach functions m names = (.ok (), m) := by
  induction names with
  | nil => rfl
  | cons name names ih =>
    obtain ⟨first, later⟩ := List.forall_mem_cons.1 loaded
    rw [loadEach_cons, load_of_loaded first]
    exact ih later

theorem has_of_loadEach (done : loadEach functions m names = (.ok (), m')) {other : String}
    (known : other ∈ names.map dotted ∨ Assoc.has m.loaded other = true) :
    Assoc.has m'.loaded other = true := by
  induction names generalizing m with
  | nil =>
    cases done
    exact known.resolve_left List.not_mem_nil
  | cons name names ih =>
    rw [loadEach_cons] at done
    rcases first : load functions m name with ⟨f | _, m₁⟩ <;> rw [first] at done
    · cases done
    · refine ih done ?_
      obtain mem | before := known
      · obtain here | later := List.mem_cons.1 mem
        · exact .inr (has_of_load first (.inl here))
        · exact .inl later
      · exact .inr (has_of_load first (.inr before))

end

theorem ancestry_take {name : Name} {size : Nat} (le : size ≤ name.length) :
    ancestry (name.take size) = (List.range size).map fun i => name.take (i + 1) := by
  unfold ancestry
  rw [List.length_take_of_le le]
  refine List.map_congr_left fun i mem => ?_
  rw [List.take_take, Nat.min_eq_left (List.mem_range.1 mem)]

theorem ancestry_take_succ {name : Name} {reach : Nat} (lt : reach < name.length) :
    ancestry (name.take (reach + 1)) = ancestry (name.take reach) ++ [name.take (reach + 1)] := by
  rw [ancestry_take lt, ancestry_take (Nat.le_of_lt lt), List.range_succ, List.map_append]
  rfl

theorem ancestry_take_of_lt {name : Name} {reach size : Nat} (lt : reach < size)
    (le : size ≤ name.length) :
    ∃ rest, ancestry (name.take size) =
      ancestry (name.take reach) ++ name.take (reach + 1) :: rest := by
  obtain ⟨more, rfl⟩ := Nat.exists_eq_add_of_lt lt
  refine ⟨(List.range more).map fun i => name.take (reach + (i + 1) + 1), ?_⟩
  rw [ancestry_take le, ancestry_take (by omega), Nat.add_assoc, List.range_add,
    List.range_succ_eq_map]
  simp [Function.comp_def]

/-- Loading the first parts of a name succeeds and leaves known modules. -/
def Reaches (functions : Assoc Target) (name : Name) (reach : Nat) (known m : Modules) : Prop :=
  ∃ m', require functions m (name.take reach) = (.ok (), m') ∧ known.Alike m'

section

variable {functions : Assoc Target} {name : Name} {reach size : Nat} {known m : Modules}
variable {f : Failure}

theorem head?_take_ne (rooted : name.head? ≠ some "") (size : Nat) :
    (name.take size).head? ≠ some "" := by
  rw [List.head?_take]
  split
  · exact nofun
  · exact rooted

theorem require_take (rooted : name.head? ≠ some "") (m : Modules) (size : Nat) :
    require functions m (name.take size) = loadEach functions m (ancestry (name.take size)) := by
  rw [require, if_neg (head?_take_ne rooted size)]

/-- After the first parts are loaded, only the next one is left to fail. -/
theorem load_of_require (rooted : name.head? ≠ some "") (lt : reach < name.length)
    (loads : require functions m (name.take reach) = (.ok (), known))
    (fails : (require functions m (name.take (reach + 1))).1 = .error f) :
    (load functions known (name.take (reach + 1))).1 = .error f := by
  rw [require_take rooted] at loads
  rw [require_take rooted, ancestry_take_succ lt, loadEach_append, loads] at fails
  dsimp only at fails
  rw [loadEach_cons] at fails
  rcases stops : load functions known (name.take (reach + 1)) with ⟨g | _, m'⟩ <;>
    rw [stops] at fails
  · exact fails
  · cases fails

/-- A try with more parts stops where the next part fails, and all is as it was before. -/
theorem Reaches.require_longer (reaches : Reaches functions name reach known m)
    (rooted : name.head? ≠ some "")
    (fails : (load functions known (name.take (reach + 1))).1 = .error f) (lt : reach < size)
    (le : size ≤ name.length) :
    ∃ m', require functions m (name.take size) = (.error f, m') ∧
      Reaches functions name reach known m' := by
  obtain ⟨m₁, loads, alike⟩ := reaches
  obtain ⟨rest, parts⟩ := ancestry_take_of_lt lt le
  obtain ⟨m₂, stops⟩ : ∃ m₂, load functions m₁ (name.take (reach + 1)) = (.error f, m₂) :=
    ⟨_, Prod.ext ((alike.load functions _).trans fails) rfl⟩
  rw [require_take rooted] at loads
  refine ⟨m₂, ?_, m₂, ?_, alike.trans (alike_of_load stops)⟩
  · rw [require_take rooted, parts, loadEach_append, loads]
    dsimp only
    rw [loadEach_cons, stops]
  · rw [require_take rooted]
    refine loadEach_of_loaded fun shorter mem => ?_
    rw [(alike_of_load stops).loaded]
    exact has_of_loadEach loads (.inl (List.mem_map_of_mem mem))

theorem findWithin_of_broken (rooted : name.head? ≠ some "")
    (fails : (load functions known (name.take (reach + 1))).1 = .error f)
    (there : isMissing (name.take (reach + 1)) f = false) (lt : reach < size)
    (le : size ≤ name.length) (reaches : Reaches functions name reach known m) :
    (findWithin functions name size m).1 = .error f := by
  induction size generalizing m with
  | zero => exact absurd lt (Nat.not_lt_zero _)
  | succ size ih =>
    obtain ⟨m', stops, reaches'⟩ := reaches.require_longer rooted fails lt le
    rw [findWithin, stops]
    dsimp only
    by_cases missing : isMissing (name.take (size + 1)) f = true
    · rw [if_pos missing]
      have apart : reach ≠ size := by
        rintro rfl
        rw [there] at missing
        cases missing
      exact ih (by omega) (by omega) reaches'
    · rw [if_neg missing]

theorem findWithin_of_missing (rooted : name.head? ≠ some "")
    (fails : reach < size → (load functions known (name.take (reach + 1))).1 = .error f)
    (missing : ∀ k, reach < k → k ≤ size → isMissing (name.take k) f = true) (ge : reach ≤ size)
    (le : size ≤ name.length) (reaches : Reaches functions name reach known m) :
    ∃ m', findWithin functions name size m = findWithin functions name reach m' ∧
      Reaches functions name reach known m' := by
  induction size generalizing m with
  | zero =>
    obtain rfl := Nat.le_zero.1 ge
    exact ⟨m, rfl, reaches⟩
  | succ size ih =>
    obtain lt | rfl := Nat.lt_or_eq_of_le ge
    · obtain ⟨m', stops, reaches'⟩ := reaches.require_longer rooted (fails lt) lt le
      obtain ⟨m'', same, reaches''⟩ := ih (fun _ => fails lt)
        (fun k gt le => missing k gt (by omega)) (by omega) (by omega) reaches'
      refine ⟨m'', ?_, reaches''⟩
      rw [findWithin, stops]
      dsimp only
      rw [if_pos (missing _ lt (Nat.le_refl _)), same]
    · exact ⟨m, rfl, reaches⟩

end

/-- Whether a failure says that a module of this name, or one that it lies in, is not there. -/
def Misses (name : Name) (f : Failure) : Prop :=
  ∃ text, ∃ module ∈ ancestry name, f = .brokenModule text (some (dotted module))

section

variable {name : Name}

theorem dotted_append {first second : Name} (some : first ≠ []) (some' : second ≠ []) :
    dotted (first ++ second) = dotted first ++ "." ++ dotted second :=
  Text.intercalate_append "." some some'

theorem fields_dotted (some : name ≠ []) (free : ∀ part ∈ name, '.' ∉ part.toList) :
    Text.fields '.' (dotted name) = name :=
  Text.fields_intercalate some free

theorem dotted_fields (text : String) : dotted (Text.fields '.' text) = text :=
  Text.intercalate_fields '.' text

theorem mem_ancestry {module : Name} :
    module ∈ ancestry name ↔ ∃ i < name.length, module = name.take (i + 1) := by
  simp [ancestry, eq_comm]

/-- Comparing dotted names compares them part by part. -/
theorem isMissing_iff (some : name ≠ []) (free : ∀ part ∈ name, '.' ∉ part.toList) (f : Failure) :
    isMissing name f = true ↔ Misses name f := by
  have positive : 0 < name.length := List.length_pos_of_ne_nil some
  constructor
  · intro missing
    unfold isMissing at missing
    split at missing
    · next text absent =>
      simp only [Bool.or_eq_true, beq_iff_eq, Option.isSome_iff_exists,
        Site.dropStart?_eq_some] at missing
      obtain rfl | ⟨rest, eq⟩ := missing
      · refine ⟨text, name, mem_ancestry.2 ⟨name.length - 1, by omega, ?_⟩, rfl⟩
        rw [Nat.sub_add_cancel positive, List.take_length]
      · have parts : name = Text.fields '.' absent ++ Text.fields '.' (String.ofList rest) := by
          rw [← fields_dotted some free, ← Text.fields_append_sep]
          refine congrArg _ (String.toList_inj.1 ?_)
          simp [eq]
        have inside : 0 < (Text.fields '.' absent).length :=
          List.length_pos_of_ne_nil (Text.fields_ne_nil '.' absent)
        have within : (Text.fields '.' absent).length ≤ name.length := by
          rw [parts, List.length_append]
          exact Nat.le_add_right _ _
        refine ⟨text, Text.fields '.' absent, mem_ancestry.2
          ⟨(Text.fields '.' absent).length - 1, by omega, ?_⟩, by rw [dotted_fields]⟩
        rw [Nat.sub_add_cancel inside]
        conv => rhs; rw [parts]
        rw [List.take_left]
    · cases missing
  · rintro ⟨text, module, mem, rfl⟩
    obtain ⟨i, lt, rfl⟩ := mem_ancestry.1 mem
    unfold isMissing
    simp only [Bool.or_eq_true, beq_iff_eq, Option.isSome_iff_exists, Site.dropStart?_eq_some]
    obtain last | more := Nat.eq_or_lt_of_le (Nat.succ_le_of_lt lt)
    · left
      rw [show i + 1 = name.length from last, List.take_length]
    · right
      refine ⟨(dotted (name.drop (i + 1))).toList, ?_⟩
      conv => lhs; rw [← List.take_append_drop (i + 1) name]
      rw [dotted_append (by simpa using some) (by simpa using more), String.toList_append]

theorem Misses.of_lt {text : String} {i k : Nat} (lt : i < k) (le : k ≤ name.length) :
    Misses (name.take k) (.brokenModule text (some (dotted (name.take (i + 1))))) := by
  refine ⟨text, _, mem_ancestry.2 ⟨i, by rw [List.length_take_of_le le]; exact lt, ?_⟩, rfl⟩
  rw [List.take_take, Nat.min_eq_left lt]

end

section

variable {functions : Assoc Target} {name : Name} {reach : Nat} {known m : Modules}

theorem find_of_broken (rooted : name.head? ≠ some "") (free : ∀ part ∈ name, '.' ∉ part.toList)
    (loads : require functions m (name.take reach) = (.ok (), known)) {f : Failure}
    (proper : reach + 1 < name.length)
    (fails : (require functions m (name.take (reach + 1))).1 = .error f)
    (there : ¬ Misses (name.take (reach + 1)) f) :
    (findWithin functions name (name.length - 1) m).1 = .error f := by
  refine findWithin_of_broken rooted (load_of_require rooted (by omega) loads fails) ?_
    (by omega) (by omega) ⟨known, loads, .refl known⟩
  rw [Bool.eq_false_iff, Ne, isMissing_iff]
  · exact there
  · exact List.ne_nil_of_length_pos (by simp; omega)
  · exact fun part mem => free part (List.mem_of_mem_take mem)

theorem find_of_missing (rooted : name.head? ≠ some "") (free : ∀ part ∈ name, '.' ∉ part.toList)
    (loads : require functions m (name.take reach) = (.ok (), known)) (proper : reach < name.length)
    (reported : reach + 1 < name.length → ∃ report,
      (require functions m (name.take (reach + 1))).1 =
        .error (.brokenModule report (some (dotted (name.take (reach + 1)))))) :
    ∃ m', findWithin functions name (name.length - 1) m = findWithin functions name reach m' ∧
      Reaches functions name reach known m' := by
  have reaches : Reaches functions name reach known m := ⟨known, loads, .refl known⟩
  by_cases more : reach + 1 < name.length
  · obtain ⟨report, fails⟩ := reported more
    refine findWithin_of_missing rooted
      (fun _ => load_of_require rooted proper loads fails) (fun k gt le => ?_)
      (by omega) (by omega) reaches
    rw [isMissing_iff]
    · exact .of_lt gt (by omega)
    · exact List.ne_nil_of_length_pos (by simp; omega)
    · exact fun part mem => free part (List.mem_of_mem_take mem)
  · exact ⟨m, by rw [show name.length - 1 = reach by omega], reaches⟩

/-- Where the prefix itself is loaded, what is left of the name are attributes. -/
theorem findWithin_of_reaches (reaches : Reaches functions name reach known m) (some : 0 < reach) :
    (findWithin functions name reach m).1 =
      resolvedAt known (name.take reach) (name.drop reach) := by
  obtain ⟨m', loads, alike⟩ := reaches
  obtain ⟨size, rfl⟩ := Nat.exists_eq_add_one_of_ne_zero (Nat.ne_of_gt some)
  rw [findWithin, loads]
  exact alike.resolvedAt _ _

end

theorem exists_last_loaded (functions : Assoc Target) (m : Modules) {name : Name}
    (some : name ≠ []) :
    ∃ reach < name.length, (require functions m (name.take reach)).1 = .ok () ∧
      (reach + 1 < name.length →
        ∃ f, (require functions m (name.take (reach + 1))).1 = .error f) := by
  have upTo : ∀ size, ∃ reach ≤ size, (require functions m (name.take reach)).1 = .ok () ∧
      (reach < size → ∃ f, (require functions m (name.take (reach + 1))).1 = .error f) := by
    intro size
    induction size with
    | zero => exact ⟨0, Nat.le_refl 0, rfl, fun lt => absurd lt (Nat.lt_irrefl 0)⟩
    | succ size ih =>
      obtain ⟨reach, le, loads, fails⟩ := ih
      obtain lt | rfl := Nat.lt_or_eq_of_le le
      · exact ⟨reach, by omega, loads, fun _ => fails lt⟩
      · cases next : (require functions m (name.take (reach + 1))).1 with
        | error f => exact ⟨reach, by omega, loads, fun _ => ⟨f, next⟩⟩
        | ok _ => exact ⟨reach + 1, Nat.le_refl _, next, fun lt => absurd lt (Nat.lt_irrefl _)⟩
  have positive : 0 < name.length := List.length_pos_of_ne_nil some
  obtain ⟨reach, le, loads, fails⟩ := upTo (name.length - 1)
  exact ⟨reach, by omega, loads, fun proper => fails (by omega)⟩

/-- What a dotted name resolves to goes by the last proper prefix of it that can be loaded, and
there is always one, be it the empty one. If the next prefix fails for another reason than that it
is not there, the search ends with that failure. If there is no next prefix, or it is not there,
what is left of the name are attributes of the module; a failure to ask for them is no missing
attribute. -/
theorem find_by_prefixes (functions : Assoc Target) (m : Modules) (text : String)
    (rooted : (Text.fields '.' text).head? ≠ some "") :
    let name := Text.fields '.' text
    let loaded (size : Nat) := require functions m (name.take size)
    (∃ reach < name.length, (loaded reach).1 = .ok () ∧
      (reach + 1 < name.length → ∃ f, (loaded (reach + 1)).1 = .error f)) ∧
    ∀ reach < name.length, (loaded reach).1 = .ok () →
      (∀ f, reach + 1 < name.length → (loaded (reach + 1)).1 = .error f →
        ¬ Misses (name.take (reach + 1)) f → (find functions m text).1 = .error f) ∧
      ((reach + 1 < name.length → ∃ report, (loaded (reach + 1)).1 =
          .error (.brokenModule report (some (dotted (name.take (reach + 1)))))) →
        (reach = 0 → (find functions m text).1 = .error (.unknownAction (.text text))) ∧
        (0 < reach → (find functions m text).1 =
          match follow (loaded reach).2 (.module (dotted (name.take reach)))
            (name.drop reach) with
          | .error f => .error f
          | .ok found => match found.bind Resolved.ofItem? with
            | some r => .ok r
            | none => .error (.unknownAction (.text text)))) := by
  intro name loaded
  refine ⟨exists_last_loaded functions m (Text.fields_ne_nil '.' text), fun reach proper ok => ?_⟩
  have search : find functions m text = findWithin functions name (name.length - 1) m := rfl
  have free : ∀ part ∈ name, '.' ∉ part.toList := fun _ => Text.not_mem_of_mem_fields
  have loads : require functions m (name.take reach) = (.ok (), (loaded reach).2) := Prod.ext ok rfl
  rw [search]
  refine ⟨fun f => find_of_broken rooted free loads, fun reported => ?_⟩
  obtain ⟨m', same, reaches⟩ := find_of_missing rooted free loads proper reported
  rw [same]
  constructor
  · rintro rfl
    rw [findWithin, dotted_fields]
  · intro some
    rw [findWithin_of_reaches reaches some, resolvedAt, List.take_append_drop, dotted_fields]
    cases follow (loaded reach).2 (.module (dotted (name.take reach))) (name.drop reach) with
    | error f => rfl
    | ok found =>
      cases eq : found.bind Resolved.ofItem? <;>
        simp [eq, bind, Except.bind, pure, Except.pure]

def showAction : Callable := ⟨0, "show", some "show", [], .null⟩

/-- A module that has an action, and one in it that needs another module. -/
def siteModules : Modules where
  sources := [("site", ⟨[("show", .target (.callable showAction))], none⟩),
    ("site.pages", ⟨[], some (.brokenModule "No module named 'lost'" (some "lost"))⟩)]

/-- The module that needs another one is not taken for missing. The action beside it is found, and
nothing in a module that is not there. -/
theorem siteModules_find :
    (find [] siteModules "site.pages.index.show").1 =
        .error (.brokenModule "No module named 'lost'" (some "lost")) ∧
      (find [] siteModules "site.show").1 = .ok (.ofCallable showAction) ∧
      (find [] siteModules "site.shop.show").1 =
        .error (.unknownAction (.text "site.shop.show")) := by
  have loads : (require [] siteModules ["site"]).1 = .ok () := by rfl
  refine ⟨?_, ?_, ?_⟩
  · refine ((find_by_prefixes [] siteModules "site.pages.index.show" (by decide)).2 1 (by decide)
      loads).1 _ (by decide) (by rfl) ?_
    rintro ⟨text, module, mem, eq⟩
    have apart : ∀ module ∈ ancestry ["site", "pages"], some "lost" ≠ some (dotted module) := by
      decide
    exact apart module mem (Failure.brokenModule.inj eq).2
  · rw [(((find_by_prefixes [] siteModules "site.show" (by decide)).2 1 (by decide) loads).2
      (fun more => absurd more (by decide))).2 Nat.one_pos]
    rfl
  · rw [(((find_by_prefixes [] siteModules "site.shop.show" (by decide)).2 1 (by decide) loads).2
      (fun _ => ⟨"No module of this name", by rfl⟩)).2 Nat.one_pos]
    rfl

/-- A module with a number in the place of what to ask for whatever it does not have. -/
def numberModule : Modules where
  sources := [("site", ⟨[("__getattr__", .target (.plain (.int 5)))], none⟩)]

/-- The module can be loaded and does not have the action, and yet the search does not end with
that: the number cannot be asked. -/
theorem numberModule_find :
    (require [] numberModule ["site"]).1 = .ok () ∧
      (find [] numberModule "site.show").1 =
        .error (.badCall "The module cannot be asked for what it does not have") ∧
      (find [] numberModule "site.show").1 ≠ .error (.unknownAction (.text "site.show")) ∧
      ∀ r, (find [] numberModule "site.show").1 ≠ .ok r := by
  have failed : (find [] numberModule "site.show").1 =
      .error (.badCall "The module cannot be asked for what it does not have") := by rfl
  refine ⟨by rfl, failed, ?_, ?_⟩ <;> rw [failed] <;> exact nofun

end Modules
end HandlerChains
