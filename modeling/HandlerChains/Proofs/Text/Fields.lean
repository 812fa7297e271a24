import HandlerChains.Text.Fields
import Mathlib.Data.List.Basic

/-!
# Texts of fields

Cutting a text at a separator and joining fields that are free of it undo each other. So a text of
fields starts with another one and a separator only if its fields start with those of the other.
-/

namespace HandlerChains
namespace Text

section

variable {sep : Char} {field rest : List Char} {fields : List (List Char)}

theorem cutAt_of_not_mem (free : sep ∉ field) : cutAt sep field = [field] := by
  induction field with
  | nil => rfl
  | cons c field ih =>
    obtain ⟨first, later⟩ := not_or.1 (mt List.mem_cons.2 free)
    rw [cutAt, if_neg (Ne.symm first), ih later]

theorem cutAt_append_sep (cs rest : List Char) :
    cutAt sep (cs ++ sep :: rest) = cutAt sep cs ++ cutAt sep rest := by
  induction cs with
  | nil => simp [cutAt]
  | cons c cs ih =>
    by_cases cut : c = sep
    · rw [List.cons_append, cutAt, cutAt, if_pos cut, if_pos cut, ih]
      rfl
    · rw [List.cons_append, cutAt, cutAt, if_neg cut, if_neg cut, ih]
      cases eq : cutAt sep cs with
      | nil => exact absurd eq (cutAt_ne_nil sep cs)
      | cons first more => rfl

theorem cutAt_joinWith (some : fields ≠ []) (free : ∀ field ∈ fields, sep ∉ field) :
    cutAt sep (joinWith sep fields) = fields := by
  induction fields with
  | nil => exact absurd rfl some
  | cons field more ih =>
    obtain ⟨first, later⟩ := List.forall_mem_cons.1 free
    cases more with
    | nil => exact cutAt_of_not_mem first
    | cons next more =>
      change cutAt sep (field ++ sep :: joinWith sep (next :: more)) = _
      rw [cutAt_append_sep, cutAt_of_not_mem first, ih (List.cons_ne_nil _ _) later]
      rfl

theorem not_mem_of_mem_cutAt {cs : List Char} (mem : field ∈ cutAt sep cs) : sep ∉ field := by
  induction cs generalizing field with
  | nil =>
    rw [List.mem_singleton.1 mem]
    exact List.not_mem_nil
  | cons c rest ih =>
    by_cases cut : c = sep
    · rw [cutAt, if_pos cut] at mem
      obtain rfl | later := List.mem_cons.1 mem
      · exact List.not_mem_nil
      · exact ih later
    · rw [cutAt, if_neg cut] at mem
      split at mem
      · rw [List.mem_singleton.1 mem]
        simpa using Ne.symm cut
      · next first more eq =>
        rw [eq] at ih
        obtain rfl | later := List.mem_cons.1 mem
        · exact fun known => (List.mem_cons.1 known).elim (Ne.symm cut) (ih List.mem_cons_self)
        · exact ih (List.mem_cons_of_mem _ later)

theorem joinWith_eq_intercalate (fields : List (List Char)) :
    joinWith sep fields = [sep].intercalate fields := by
  induction fields with
  | nil => rfl
  | cons field more ih =>
    cases more with
    | nil => simp [joinWith]
    | cons next more =>
      rw [joinWith, ih]
      · simp [List.intercalate_cons_cons]
      · exact List.cons_ne_nil next more

end

variable {sep : Char} {ts : List String}

theorem toList_intercalate_singleton (sep : Char) (ts : List String) :
    ((String.singleton sep).intercalate ts).toList = joinWith sep (ts.map String.toList) := by
  rw [String.toList_intercalate, String.toList_singleton, joinWith_eq_intercalate]

theorem intercalate_append (sep : String) {us : List String} (first : ts ≠ []) (second : us ≠ []) :
    sep.intercalate (ts ++ us) = sep.intercalate ts ++ sep ++ sep.intercalate us := by
  obtain ⟨u, us, rfl⟩ := List.exists_cons_of_ne_nil second
  induction ts with
  | nil => exact absurd rfl first
  | cons t ts ih =>
    cases ts with
    | nil => simp [String.intercalate_cons_cons]
    | cons next ts =>
      rw [List.cons_append, List.cons_append, String.intercalate_cons_cons,
        String.intercalate_cons_cons, ← List.cons_append, ih (List.cons_ne_nil _ _)]
      simp only [String.append_assoc]

theorem fields_append_sep (s t : String) :
    fields sep (s ++ String.singleton sep ++ t) = fields sep s ++ fields sep t := by
  simp [fields, cutAt_append_sep]

theorem fields_intercalate (some : ts ≠ []) (free : ∀ t ∈ ts, sep ∉ t.toList) :
    fields sep ((String.singleton sep).intercalate ts) = ts := by
  rw [fields, toList_intercalate_singleton, cutAt_joinWith]
  · simp
  · simpa using some
  · simpa using free

theorem intercalate_fields (sep : Char) (s : String) :
    (String.singleton sep).intercalate (fields sep s) = s := by
  rw [← String.toList_inj, toList_intercalate_singleton, fields, List.map_map]
  have same : String.toList ∘ String.ofList = id := funext fun cs => String.toList_ofList
  rw [same, List.map_id, joinWith_cutAt]

theorem not_mem_of_mem_fields {s t : String} (mem : t ∈ fields sep s) : sep ∉ t.toList := by
  obtain ⟨field, cut, rfl⟩ := List.mem_map.1 mem
  rw [String.toList_ofList]
  exact not_mem_of_mem_cutAt cut

theorem fields_ne_nil (sep : Char) (s : String) : fields sep s ≠ [] := by
  simpa [fields] using cutAt_ne_nil sep s.toList

end Text
end HandlerChains
