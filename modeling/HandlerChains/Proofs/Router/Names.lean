import HandlerChains.Router.Register
import Mathlib.Data.List.Nodup
import Mathlib.Data.List.Perm.Subperm

/-!
# New names

An entry is named by a name that no entry of its router has yet: one that is given is refused where
it is taken, and one that is derived is numbered until it is free. There are more numbers to try
than names that can be in the way.
-/

namespace HandlerChains

def numbered (base : String) (n : Nat) : Key := .text (base ++ "#" ++ toString n)

theorem numbered_injective (base : String) : Function.Injective (numbered base) := by
  intro n m same
  have texts : base ++ "#" ++ n.repr = base ++ "#" ++ m.repr := Key.text.inj same
  have digits := congrArg String.toList ((String.append_right_inj (base ++ "#")).1 texts)
  rw [Nat.toList_repr, Nat.toList_repr] at digits
  rw [← Nat.ofDigitChars_ten_toDigits (n := n), digits, Nat.ofDigitChars_ten_toDigits]

theorem key_ne_numbered (base : Value) (n : Nat) : base.key ≠ numbered base.shown n := by
  cases base with
  | text s =>
    intro same
    have texts : s = s ++ "#" ++ toString n := Key.text.inj same
    have lengths := congrArg String.length texts
    simp only [String.length_append] at lengths
    have mark : "#".length = 1 := rfl
    omega
  | decimal negative digits places =>
    have number : ∀ (k : Int) (places : Nat), ∃ m q, Key.reduced k places = .number m q := by
      intro k places
      induction places generalizing k with
      | zero => exact ⟨k, 0, rfl⟩
      | succ places ih =>
        unfold Key.reduced
        split
        · exact ih _
        · exact ⟨k, places + 1, rfl⟩
    obtain ⟨m, q, eq⟩ := number
      (if negative then -(Double.ofDecimal digits places).expansion.1
        else (Double.ofDecimal digits places).expansion.1)
      (Double.ofDecimal digits places).expansion.2
    have key : (Value.decimal negative digits places).key = .number m q := eq
    rw [key]
    intro same
    cases same
  | null | bool | int | list | record =>
    intro same
    cases same

/-- Counting stops at a number that is free, unless none of the numbers tried is. -/
theorem numberedName_cases (base : String) (taken : List Key) (fuel n : Nat) :
    .text (numberedName base taken fuel n) ∉ taken ∨
      ∀ m, n ≤ m → m < n + fuel → numbered base m ∈ taken := by
  induction fuel generalizing n with
  | zero =>
    right
    intro m least small
    omega
  | succ fuel ih =>
    unfold numberedName
    dsimp only
    split
    · next used =>
      refine (ih (n + 1)).imp_right fun all m least small => ?_
      rcases Nat.eq_or_lt_of_le least with first | later
      · exact first ▸ used
      · exact all m later (by omega)
    · next free => exact .inl free

theorem uniqueName_fresh (base : Value) (taken : List Key) :
    (uniqueName base taken).key ∉ taken := by
  unfold uniqueName
  split
  · next used =>
    rcases numberedName_cases base.shown taken taken.length 2 with free | all
    · exact free
    · -- The name itself and all numbers tried would be more names than are taken.
      let tried := base.key :: (List.range' 2 taken.length).map (numbered base.shown)
      have distinct : tried.Nodup := by
        refine List.nodup_cons.2 ⟨?_, (List.nodup_range' 1).map (numbered_injective base.shown)⟩
        intro mem
        obtain ⟨n, -, same⟩ := List.mem_map.1 mem
        exact key_ne_numbered base n same.symm
      have inside : tried ⊆ taken := by
        intro key mem
        rcases List.mem_cons.1 mem with rfl | mem
        · exact used
        · obtain ⟨n, within, rfl⟩ := List.mem_map.1 mem
          rw [List.mem_range'_1] at within
          exact all n within.1 within.2
      have le := (distinct.subperm inside).length_le
      simp only [tried, List.length_cons, List.length_map, List.length_range'] at le
      omega
  · next free => exact free

namespace Router

theorem entryName_fresh {r : Router} {given name : Value} {derived : Except Failure Value}
    (named : r.entryName given derived = .ok name) : name.key ∉ r.keys := by
  unfold entryName at named
  split at named
  · cases made : Failure.keyOf given with
    | error f =>
      rw [made] at named
      cases named
    | ok key =>
      rw [made] at named
      dsimp only [bind, Except.bind] at named
      split at named
      · cases named
      · next free =>
        cases named
        rw [Failure.key_of_keyOf made]
        exact free
  · cases derived with
    | error f => cases named
    | ok base =>
      dsimp only [bind, Except.bind] at named
      cases made : Failure.keyOf base with
      | error f =>
        rw [made] at named
        cases named
      | ok key =>
        rw [made] at named
        cases named
        exact uniqueName_fresh base r.keys

theorem newEntry_eq_ok_iff {r : Router} {codes : List String} {h : Handler} {error : Bool}
    {name : Value} {derived : Except Failure Value} {options : Assoc Value} {e : Entry} :
    r.newEntry codes h error name derived options = .ok e ↔
      r.expect "_split_options" (.alone "dict") = .ok () ∧
        ∃ name', r.entryName name derived = .ok name' ∧
          e = { name := name', handler := h, error, metadata := r.entryMetadata codes options } := by
  unfold newEntry
  cases own : r.expect "_split_options" (.alone "dict") with
  | error f => simp [bind, Except.bind]
  | ok _ =>
    cases named : r.entryName name derived with
    | error f => simp [bind, Except.bind]
    | ok name' =>
      simp only [bind, Except.bind, pure, Except.pure, Except.ok.injEq, true_and, exists_eq_left']
      exact eq_comm

theorem newEntry_fresh {r : Router} {codes : List String} {h : Handler} {error : Bool}
    {name : Value} {derived : Except Failure Value} {options : Assoc Value} {e : Entry}
    (made : r.newEntry codes h error name derived options = .ok e) :
    e.key ∉ r.keys ∧
      ∃ name', e =
        { name := name', handler := h, error, metadata := r.entryMetadata codes options } := by
  obtain ⟨-, name', named, rfl⟩ := newEntry_eq_ok_iff.1 made
  exact ⟨entryName_fresh named, name', rfl⟩

end Router
end HandlerChains
