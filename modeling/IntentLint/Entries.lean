/-!
# `Entries` — values under keys, in order of first insertion

Putting a value under a key that is present replaces the value and keeps the place; under a new key it
goes to the end. So an object of a document, the counts of a report and the reports of a run list each key
once, where it first came up, with its last value.
-/

namespace IntentLint

/-- Values under keys, in order of first insertion. -/
abbrev Entries (κ : Type) (α : Type u) := List (κ × α)

namespace Entries

variable {κ : Type} {α : Type u}

/-- The keys in order. -/
def keys (entries : Entries κ α) : List κ := entries.map (·.1)

/-- The values in order. -/
def values (entries : Entries κ α) : List α := entries.map (·.2)

@[simp] theorem keys_nil : keys ([] : Entries κ α) = [] := rfl

@[simp] theorem keys_cons (k : κ) (v : α) (rest : Entries κ α) :
    keys ((k, v) :: rest) = k :: keys rest := rfl

variable [DecidableEq κ]

/-- The value under a key. -/
def get? (key : κ) : Entries κ α → Option α
  | [] => none
  | (k, v) :: rest => if k = key then some v else get? key rest

/-- Puts a value under a key, in the key's place or at the end. -/
def put (key : κ) (value : α) : Entries κ α → Entries κ α
  | [] => [(key, value)]
  | (k, v) :: rest => if k = key then (k, value) :: rest else (k, v) :: put key value rest

/-- Puts one value after another. -/
def putAll (entries : Entries κ α) (more : List (κ × α)) : Entries κ α :=
  more.foldl (fun es (k, v) => put k v es) entries

/-- The entries of a list of values under keys that may repeat. -/
def ofList (pairs : List (κ × α)) : Entries κ α := putAll [] pairs

/-! ## What putting does -/

@[simp] theorem get?_put_self (key : κ) (value : α) (entries : Entries κ α) :
    get? key (put key value entries) = some value := by
  induction entries with
  | nil => simp [put, get?]
  | cons e rest ih =>
    obtain ⟨k, v⟩ := e
    by_cases h : k = key <;> simp [put, get?, h, ih]

theorem get?_put_ne {key other : κ} (h : key ≠ other) (value : α) (entries : Entries κ α) :
    get? other (put key value entries) = get? other entries := by
  induction entries with
  | nil => simp [put, get?, h]
  | cons e rest ih =>
    obtain ⟨k, v⟩ := e
    by_cases hk : k = key
    · subst hk; simp [put, get?, h]
    · by_cases ho : k = other
      · subst ho; simp [put, get?, hk]
      · simp [put, get?, hk, ho, ih]

theorem keys_put_of_mem {key : κ} {entries : Entries κ α} (h : key ∈ keys entries) (value : α) :
    keys (put key value entries) = keys entries := by
  induction entries with
  | nil => simp at h
  | cons e rest ih =>
    obtain ⟨k, v⟩ := e
    by_cases hk : k = key
    · simp [put, hk]
    · have h' : key ∈ keys rest := by simpa [Ne.symm hk] using h
      simp [put, hk, ih h']

theorem keys_put_of_not_mem {key : κ} {entries : Entries κ α} (h : key ∉ keys entries) (value : α) :
    keys (put key value entries) = keys entries ++ [key] := by
  induction entries with
  | nil => simp [put]
  | cons e rest ih =>
    obtain ⟨k, v⟩ := e
    simp only [keys_cons, List.mem_cons, not_or] at h
    simp [put, Ne.symm h.1, ih h.2]

end Entries
end IntentLint
