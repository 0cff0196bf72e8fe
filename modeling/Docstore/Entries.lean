/-!
# `Docstore.Entries` — ordered lists of named values

An object is a list of entries in the order they were first written. `insert` keeps the place of a name
that is already there; `erase` keeps the order of the others. Lists built by `insert` name nothing
twice.
-/

namespace Docstore.Entries

variable {α : Type}

/-- The value under a name. -/
def get? (name : String) : List (String × α) → Option α
  | [] => none
  | (key, value) :: rest => if key = name then some value else get? name rest

/-- Writes a value under a name, in place if the name is there and at the end otherwise. -/
def insert (name : String) (value : α) : List (String × α) → List (String × α)
  | [] => [(name, value)]
  | (key, old) :: rest =>
    if key = name then (key, value) :: rest else (key, old) :: insert name value rest

/-- Takes out the entry of a name. -/
def erase (name : String) : List (String × α) → List (String × α)
  | [] => []
  | (key, value) :: rest => if key = name then rest else (key, value) :: erase name rest

/-- The names, in order. -/
def names (entries : List (String × α)) : List String := entries.map (·.1)

/-- Is there an entry of this name? -/
def has (name : String) (entries : List (String × α)) : Bool := (get? name entries).isSome

/-- Inserts one entry after another. -/
def ofList (entries : List (String × α)) : List (String × α) :=
  entries.foldl (fun built entry => insert entry.1 entry.2 built) []

/-! ## Laws -/

theorem get?_insert_self (name : String) (value : α) (entries : List (String × α)) :
    get? name (insert name value entries) = some value := by
  induction entries with
  | nil => simp [insert, get?]
  | cons entry rest ih =>
    obtain ⟨key, old⟩ := entry
    by_cases h : key = name
    · simp [insert, get?, h]
    · simp [insert, get?, h, ih]

theorem get?_insert_of_ne {name other : String} (h : other ≠ name) (value : α)
    (entries : List (String × α)) :
    get? other (insert name value entries) = get? other entries := by
  induction entries with
  | nil => simp [insert, get?, Ne.symm h]
  | cons entry rest ih =>
    obtain ⟨key, old⟩ := entry
    by_cases hk : key = name
    · subst hk
      simp [insert, get?, Ne.symm h]
    · simp only [insert, hk, if_false, get?, ih]

end Docstore.Entries
