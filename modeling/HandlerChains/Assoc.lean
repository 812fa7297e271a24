/-!
# Ordered tables

A table is a list of named values in the order in which the names were first given. Setting a known
name replaces its value where it stands; a new name goes to the end. Mostly names are texts: such a
table is an `Assoc α`.
-/

namespace HandlerChains

abbrev Table (κ α : Type) := List (κ × α)

abbrev Assoc (α : Type) := Table String α

namespace Assoc

variable {κ α : Type} [DecidableEq κ]

/-- The value under a name. -/
def get? : Table κ α → κ → Option α
  | [], _ => none
  | (k, v) :: rest, name => if k = name then some v else get? rest name

def has (t : Table κ α) (name : κ) : Bool := (get? t name).isSome

def put : Table κ α → κ → α → Table κ α
  | [], name, value => [(name, value)]
  | (k, v) :: rest, name, value =>
    if k = name then (k, value) :: rest else (k, v) :: put rest name value

/-- All of `new` written over `t`, one name after another. -/
def merge (t new : Table κ α) : Table κ α :=
  new.foldl (fun acc (name, value) => put acc name value) t

def erase (t : Table κ α) (name : κ) : Table κ α :=
  t.filter fun (k, _) => k ≠ name

def names {κ α : Type} (t : Table κ α) : List κ := t.map (·.1)

/-- The value under a name changed by `f`, which is given `fresh` where the name is new. -/
def alter (t : Table κ α) (name : κ) (fresh : α) (f : α → α) : Table κ α :=
  put t name (f ((get? t name).getD fresh))

@[simp] theorem get?_nil (name : κ) : get? ([] : Table κ α) name = none := rfl

@[simp] theorem get?_put_self (t : Table κ α) (name : κ) (value : α) :
    get? (put t name value) name = some value := by
  induction t with
  | nil => simp [put, get?]
  | cons row rest ih =>
    obtain ⟨k, v⟩ := row
    by_cases h : k = name
    · simp [put, get?, h]
    · simp [put, get?, h, ih]

theorem get?_put_of_ne (t : Table κ α) {name other : κ} (value : α) (ne : other ≠ name) :
    get? (put t name value) other = get? t other := by
  induction t with
  | nil => simp [put, get?, Ne.symm ne]
  | cons row rest ih =>
    obtain ⟨k, v⟩ := row
    by_cases h : k = name
    · subst h
      simp [put, get?, Ne.symm ne]
    · by_cases o : k = other
      · subst o
        simp [put, get?, h]
      · simp [put, get?, h, o, ih]

theorem names_put (t : Table κ α) (name : κ) (value : α) :
    names (put t name value) = if name ∈ names t then names t else names t ++ [name] := by
  induction t with
  | nil => simp [put, names]
  | cons row rest ih =>
    obtain ⟨k, v⟩ := row
    by_cases h : k = name
    · subst h
      simp [put, names]
    · have h' : ¬ name = k := fun e => h e.symm
      simp only [names] at ih
      by_cases m : name ∈ rest.map (·.1) <;> simp_all [put, names]

theorem get?_erase_of_ne (t : Table κ α) {name other : κ} (ne : other ≠ name) :
    get? (erase t name) other = get? t other := by
  induction t with
  | nil => rfl
  | cons row rest ih =>
    obtain ⟨k, v⟩ := row
    by_cases h : k = name
    · subst h
      simpa [erase, get?, Ne.symm ne] using ih
    · by_cases o : k = other
      · simp [erase, get?, o, ne]
      · simpa [erase, get?, h, o] using ih

@[simp] theorem erase_put_self (t : Table κ α) (name : κ) (value : α) :
    erase (put t name value) name = erase t name := by
  induction t with
  | nil => simp [put, erase]
  | cons row rest ih =>
    obtain ⟨k, v⟩ := row
    by_cases h : k = name
    · simp [put, erase, h]
    · simpa [put, erase, h] using ih

theorem erase_put_of_ne (t : Table κ α) {name other : κ} (value : α) (ne : other ≠ name) :
    erase (put t other value) name = put (erase t name) other value := by
  induction t with
  | nil => simp [put, erase, ne]
  | cons row rest ih =>
    obtain ⟨k, v⟩ := row
    by_cases h : k = name
    · subst h
      simpa [put, erase, Ne.symm ne] using ih
    · by_cases o : k = other
      · simp [put, erase, o, ne]
      · simpa [put, erase, h, o] using ih

@[simp] theorem merge_nil (t : Table κ α) : merge t [] = t := rfl

@[simp] theorem merge_cons (t rest : Table κ α) (name : κ) (value : α) :
    merge t ((name, value) :: rest) = merge (put t name value) rest := rfl

theorem merge_append (t first second : Table κ α) :
    merge t (first ++ second) = merge (merge t first) second := List.foldl_append

end Assoc
end HandlerChains
