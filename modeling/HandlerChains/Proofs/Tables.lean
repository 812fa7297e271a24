import HandlerChains.Assoc
import Mathlib.Data.List.Basic
import Mathlib.Data.List.Nodup

/-!
# Looking things up in tables

Which names a table has after it was written to, what is found under them, and what becomes of both
where rows are left out or values are changed throughout. Where rows of one name have one value, a
table can be written row by row without regard to their order.
-/

namespace HandlerChains
namespace Assoc

section

variable {κ α : Type} [DecidableEq κ] {t new : Table κ α} {name : κ} {v : α}

theorem get?_eq_none (h : name ∉ names t) : get? t name = none := by
  induction t with
  | nil => rfl
  | cons row rest ih =>
    obtain ⟨k, v⟩ := row
    obtain ⟨first, later⟩ := not_or.1 (mt List.mem_cons.2 h)
    rw [get?, if_neg (Ne.symm first)]
    exact ih later

theorem not_mem_names (absent : get? t name = none) : name ∉ names t := by
  induction t with
  | nil => exact List.not_mem_nil
  | cons row rest ih =>
    obtain ⟨k, v⟩ := row
    rw [get?] at absent
    split at absent
    · cases absent
    · next other =>
      exact fun listed => (List.mem_cons.1 listed).elim (fun same => other same.symm) (ih absent)

theorem has_iff_mem_names : has t name = true ↔ name ∈ names t := by
  rw [has, Option.isSome_iff_ne_none]
  constructor
  · intro there
    by_contra absent
    exact there (get?_eq_none absent)
  · exact fun listed absent => not_mem_names absent listed

theorem mem_of_get? (found : get? t name = some v) : (name, v) ∈ t := by
  induction t with
  | nil => cases found
  | cons row rest ih =>
    obtain ⟨k, u⟩ := row
    rw [get?] at found
    split at found
    · next same =>
      cases found
      exact same ▸ List.mem_cons_self
    · exact List.mem_cons_of_mem _ (ih found)

/-! ## Names -/

theorem mem_names_put {other : κ} (mem : name ∈ names (put t other v)) :
    name ∈ names t ∨ name = other := by
  rw [names_put] at mem
  split at mem
  · exact .inl mem
  · exact (List.mem_append.1 mem).imp_right List.mem_singleton.1

theorem mem_names_merge (mem : name ∈ names (merge t new)) : name ∈ names t ∨ name ∈ names new := by
  induction new generalizing t with
  | nil => exact .inl mem
  | cons row rest ih =>
    obtain first | later := ih mem
    · refine (mem_names_put first).imp_right fun same => ?_
      rw [same]
      exact List.mem_cons_self
    · exact .inr (List.mem_cons_of_mem _ later)

theorem put_eq_append (new : name ∉ names t) (v : α) : put t name v = t ++ [(name, v)] := by
  induction t with
  | nil => rfl
  | cons row rest ih =>
    obtain ⟨k, u⟩ := row
    obtain ⟨other, later⟩ := not_or.1 (mt List.mem_cons.2 new)
    rw [put, if_neg (Ne.symm other), ih later]
    rfl

theorem put_eq_map (distinct : (names t).Nodup) (known : name ∈ names t) (v : α) :
    put t name v = t.map fun row => if row.1 = name then (name, v) else row := by
  induction t with
  | nil => cases known
  | cons row rest ih =>
    obtain ⟨k, u⟩ := row
    obtain ⟨alone, distinct⟩ := List.nodup_cons.1 distinct
    by_cases here : k = name
    · subst here
      have others : ∀ row ∈ rest, (if row.1 = k then (k, v) else row) = row := fun row mem =>
        if_neg fun same => alone (List.mem_map.2 ⟨row, mem, same⟩)
      rw [put, if_pos rfl, List.map_cons, if_pos rfl, List.map_congr_left others, List.map_id'']
      exact fun _ => rfl
    · have later : name ∈ names rest := (List.mem_cons.1 known).resolve_left (Ne.symm here)
      rw [put, if_neg here, List.map_cons, if_neg here, ih distinct later]

theorem names_merge (t new : Table κ α) :
    names (merge t new) = names t ++ ((names new).filter fun k => k ∉ names t).eraseDups := by
  induction new generalizing t with
  | nil => simp [names]
  | cons row rest ih =>
    obtain ⟨k, v⟩ := row
    have listed : names ((k, v) :: rest) = k :: names rest := rfl
    rw [merge_cons, ih, names_put, listed]
    by_cases known : k ∈ names t
    · simp [known]
    · have others : (names rest).filter (fun n => n ∉ names t ++ [k]) =
          ((names rest).filter fun n => n ∉ names t).filter fun n => !n == k := by
        rw [List.filter_filter]
        refine List.filter_congr fun n _ => ?_
        by_cases same : n = k <;> simp [same]
      rw [if_neg known, others, List.filter_cons_of_pos (by simpa using known),
        List.eraseDups_cons, List.append_assoc]
      rfl

theorem nodup_names_put (distinct : (names t).Nodup) (name : κ) (v : α) :
    (names (put t name v)).Nodup := by
  rw [names_put]
  split
  · exact distinct
  · next fresh =>
    refine List.nodup_append.2 ⟨distinct, List.nodup_singleton name, ?_⟩
    rintro k listed _ last rfl
    exact fresh (List.mem_singleton.1 last ▸ listed)

theorem nodup_names_erase (distinct : (names t).Nodup) (name : κ) :
    (names (erase t name)).Nodup :=
  distinct.sublist (List.filter_sublist.map _)

theorem nodup_names_merge (distinct : (names t).Nodup) (new : Table κ α) :
    (names (merge t new)).Nodup := by
  induction new generalizing t with
  | nil => exact distinct
  | cons row rest ih => exact ih (nodup_names_put distinct row.1 row.2)

/-! ## Values -/

theorem get?_append (t new : Table κ α) (name : κ) :
    get? (t ++ new) name = (get? t name).or (get? new name) := by
  induction t with
  | nil => rfl
  | cons row rest ih =>
    obtain ⟨k, v⟩ := row
    by_cases here : k = name
    · simp [get?, here]
    · simpa [get?, here] using ih

/-- The last row under a name gives its value. -/
theorem get?_merge_last (t new : Table κ α) (name : κ) :
    get? (merge t new) name = (get? new.reverse name).or (get? t name) := by
  induction new generalizing t with
  | nil => rfl
  | cons row rest ih =>
    obtain ⟨k, v⟩ := row
    rw [merge_cons, ih, List.reverse_cons, get?_append]
    by_cases here : k = name
    · subst here
      cases get? rest.reverse k <;> simp [get?]
    · simp [get?, here, get?_put_of_ne t v (Ne.symm here)]

@[simp] theorem get?_erase_self (t : Table κ α) (name : κ) : get? (erase t name) name = none := by
  refine get?_eq_none fun listed => ?_
  obtain ⟨row, kept, same⟩ := List.mem_map.1 listed
  exact of_decide_eq_true (List.mem_filter.1 kept).2 same

theorem get?_merge_of_all {P : α → Prop} (before : ∃ v, get? t name = some v ∧ P v)
    (all : ∀ row ∈ new, row.1 = name → P row.2) :
    ∃ v, get? (merge t new) name = some v ∧ P v := by
  induction new generalizing t with
  | nil => exact before
  | cons row rest ih =>
    obtain ⟨k, v⟩ := row
    rw [List.forall_mem_cons] at all
    refine ih ?_ all.2
    by_cases same : k = name
    · exact ⟨v, same ▸ get?_put_self t k v, all.1 same⟩
    · rwa [get?_put_of_ne t v (Ne.symm same)]

theorem mem_of_get?_merge (found : get? (merge t new) name = some v) :
    get? t name = some v ∨ (name, v) ∈ new := by
  induction new generalizing t with
  | nil => exact .inl found
  | cons row rest ih =>
    obtain ⟨k, u⟩ := row
    rcases ih found with before | later
    · by_cases same : k = name
      · subst same
        rw [get?_put_self] at before
        exact .inr (Option.some.inj before ▸ List.mem_cons_self)
      · rw [get?_put_of_ne t u (Ne.symm same)] at before
        exact .inl before
    · exact .inr (List.mem_cons_of_mem _ later)

theorem get?_filter_of_true {p : κ → Bool} (kept : p name = true) (t : Table κ α) :
    get? (t.filter fun row => p row.1) name = get? t name := by
  induction t with
  | nil => rfl
  | cons row rest ih =>
    obtain ⟨k, v⟩ := row
    by_cases same : k = name
    · simp [get?, same, kept]
    · by_cases there : p k = true
      · simp [get?, same, there, ih]
      · simp [get?, same, there, ih]

end

/-! ## Tables without contradictions -/

section

variable {κ α β : Type} [DecidableEq κ] {t new : Table κ α} {name : κ} {v : α}

/-- Rows under one name have the same value. -/
def Consistent (t : Table κ α) : Prop := ∀ row ∈ t, get? t row.1 = some row.2

theorem consistent_of_nodup (distinct : (names t).Nodup) : Consistent t := by
  induction t with
  | nil => exact nofun
  | cons row rest ih =>
    obtain ⟨fresh, distinct⟩ := List.nodup_cons.1 distinct
    refine List.forall_mem_cons.2 ⟨by simp [get?], fun later mem => ?_⟩
    have other : row.1 ≠ later.1 := fun same => fresh (List.mem_map.2 ⟨later, mem, same.symm⟩)
    rw [get?, if_neg other]
    exact ih distinct later mem

theorem consistent_of_all (all : ∀ row ∈ t, row.2 = v) : Consistent t := by
  intro row mem
  have there : has t row.1 = true := has_iff_mem_names.2 (List.mem_map_of_mem mem)
  obtain ⟨u, found⟩ := Option.isSome_iff_exists.1 there
  have same : u = v := all _ (mem_of_get? found)
  rw [found, same, all row mem]

namespace Consistent

theorem mem_iff (consistent : Consistent t) : (name, v) ∈ t ↔ get? t name = some v :=
  ⟨consistent (name, v), mem_of_get?⟩

theorem erase (consistent : Consistent t) (name : κ) : Consistent (Assoc.erase t name) := by
  intro row mem
  obtain ⟨listed, other⟩ := List.mem_filter.1 mem
  rw [get?_erase_of_ne t (of_decide_eq_true other)]
  exact consistent row listed

theorem append (consistent : Consistent t) (later : Consistent new)
    (fresh : ∀ name ∈ names new, name ∉ names t) : Consistent (t ++ new) := by
  intro row mem
  rw [get?_append]
  rcases List.mem_append.1 mem with first | second
  · rw [consistent row first]
    rfl
  · rw [get?_eq_none (fresh row.1 (List.mem_map_of_mem second)), later row second]
    rfl

end Consistent

/-- Rows of a consistent table are written one after another. If writing a row twice changes no more
than writing it once, then it is enough to know what the table has under a name. -/
theorem get?_foldl {step : Table κ β → κ × α → Table κ β} {write : α → Option β → Option β}
    (written : ∀ t k v, get? (step t (k, v)) name =
      if k = name then write v (get? t name) else get? t name)
    (again : ∀ v o, write v (write v o) = write v o) (consistent : Consistent new)
    (t : Table κ β) :
    get? (new.foldl step t) name = ((get? new name).elim id write) (get? t name) := by
  have each : ∀ {found : Option α} {rows : Table κ α},
      (∀ row ∈ rows, row.1 = name → found = some row.2) → ∀ t, get? (rows.foldl step t) name =
        if name ∈ names rows then (found.elim id write) (get? t name) else get? t name := by
    intro found rows all
    induction rows with
    | nil => exact fun _ => rfl
    | cons row rest ih =>
      obtain ⟨k, v⟩ := row
      obtain ⟨first, all⟩ := List.forall_mem_cons.1 all
      have listed : names ((k, v) :: rest) = k :: names rest := rfl
      intro t
      rw [List.foldl_cons, ih all, written, listed]
      by_cases here : k = name
      · simp [here, first here, again]
      · simp [here, Ne.symm here]
  rw [each fun row mem same => same ▸ consistent row mem]
  split
  · rfl
  · next absent => rw [get?_eq_none absent]; rfl

end

/-! ## Changing all values -/

section

variable {α β : Type}

theorem put_map (f : α → β) (t : Assoc α) (name : String) (v : α) :
    put (t.map fun (k, v) => (k, f v)) name (f v) = (put t name v).map fun (k, v) => (k, f v) := by
  induction t with
  | nil => rfl
  | cons row rest ih =>
    obtain ⟨k, u⟩ := row
    by_cases here : k = name
    · simp [put, here]
    · simpa [put, here] using ih

theorem merge_map (f : α → β) (t new : Assoc α) :
    merge (t.map fun (k, v) => (k, f v)) (new.map fun (k, v) => (k, f v)) =
      (merge t new).map fun (k, v) => (k, f v) := by
  induction new generalizing t with
  | nil => rfl
  | cons row rest ih =>
    obtain ⟨name, v⟩ := row
    rw [List.map_cons, merge_cons, merge_cons, put_map, ih]

end

end Assoc
end HandlerChains
