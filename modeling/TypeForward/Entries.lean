/-! Finite maps as lists of entries that keep the order in which the keys were first put. -/
namespace TypeForward.Entries

variable {κ α : Type} [DecidableEq κ]

def get? (key : κ) : List (κ × α) → Option α
  | [] => none
  | (k, a) :: rest => if k = key then some a else get? key rest

/-- A known key keeps its place, a new one comes last. -/
def put (key : κ) (value : α) : List (κ × α) → List (κ × α)
  | [] => [(key, value)]
  | (k, a) :: rest => if k = key then (k, value) :: rest else (k, a) :: put key value rest

def erase (key : κ) : List (κ × α) → List (κ × α)
  | [] => []
  | (k, a) :: rest => if k = key then rest else (k, a) :: erase key rest

def keys (entries : List (κ × α)) : List κ :=
  entries.map (·.1)

/-- The entries put one after the other into a map. -/
def putAll (entries new : List (κ × α)) : List (κ × α) :=
  new.foldl (fun entries entry => put entry.1 entry.2 entries) entries

@[simp] theorem get?_nil (key : κ) : get? key ([] : List (κ × α)) = none := rfl

@[simp] theorem get?_put_self (key : κ) (value : α) (entries : List (κ × α)) :
    get? key (put key value entries) = some value := by
  induction entries with
  | nil => simp [put, get?]
  | cons entry rest ih =>
    by_cases h : entry.1 = key
    · simp [put, get?, h]
    · simp [put, get?, h, ih]

theorem get?_put_of_ne {key other : κ} (h : other ≠ key) (value : α) (entries : List (κ × α)) :
    get? other (put key value entries) = get? other entries := by
  induction entries with
  | nil => simp [put, get?, Ne.symm h]
  | cons entry rest ih =>
    by_cases hk : entry.1 = key
    · simp [put, get?, hk, Ne.symm h]
    · simp only [put, if_neg hk, get?, ih]

theorem get?_put (key other : κ) (value : α) (entries : List (κ × α)) :
    get? other (put key value entries) = if other = key then some value else get? other entries := by
  by_cases h : other = key
  · simp [h]
  · simp [h, get?_put_of_ne h]

theorem get?_append (key : κ) (entries more : List (κ × α)) :
    get? key (entries ++ more) = (get? key entries).or (get? key more) := by
  induction entries with
  | nil => rfl
  | cons entry rest ih =>
    by_cases h : entry.1 = key
    · simp [get?, h]
    · simp [get?, h, ih]

/-- Putting what is there already changes nothing. -/
theorem put_of_get? {key : κ} {value : α} {entries : List (κ × α)} (h : get? key entries = some value) :
    put key value entries = entries := by
  induction entries with
  | nil => cases h
  | cons entry rest ih =>
    by_cases hk : entry.1 = key
    · simp only [get?, if_pos hk, Option.some.injEq] at h
      simp only [put, if_pos hk, ← h]
    · simp only [get?, if_neg hk] at h
      simp only [put, if_neg hk, ih h]

theorem mem_of_get? {key : κ} {value : α} {entries : List (κ × α)} (h : get? key entries = some value) :
    (key, value) ∈ entries := by
  induction entries with
  | nil => cases h
  | cons entry rest ih =>
    by_cases hk : entry.1 = key
    · simp only [get?, if_pos hk, Option.some.injEq] at h
      exact List.mem_cons.2 (.inl (by rw [← hk, ← h]))
    · exact List.mem_cons_of_mem _ (ih (by simpa [get?, hk] using h))

theorem mem_put {key : κ} {value : α} {entries : List (κ × α)} {entry : κ × α} (h : entry ∈ put key value entries) :
    entry = (key, value) ∨ entry ∈ entries := by
  induction entries with
  | nil => exact .inl (by simpa [put] using h)
  | cons first rest ih =>
    by_cases hk : first.1 = key
    · simp only [put, if_pos hk, List.mem_cons] at h
      rcases h with h | h
      · exact .inl (by rw [h, hk])
      · exact .inr (List.mem_cons_of_mem _ h)
    · simp only [put, if_neg hk, List.mem_cons] at h
      rcases h with h | h
      · exact .inr (by simp [h])
      · exact (ih h).imp_right (List.mem_cons_of_mem _)

theorem get?_isSome_iff {key : κ} {entries : List (κ × α)} :
    (get? key entries).isSome = true ↔ key ∈ keys entries := by
  induction entries with
  | nil => simp [keys]
  | cons entry rest ih =>
    by_cases h : entry.1 = key
    · simp [get?, keys, h]
    · simpa [get?, keys, h, Ne.symm h] using ih

theorem get?_eq_none_iff {key : κ} {entries : List (κ × α)} : get? key entries = none ↔ key ∉ keys entries := by
  rw [← get?_isSome_iff, Option.not_isSome_iff_eq_none]

theorem mem_keys_put {key other : κ} {value : α} {entries : List (κ × α)} :
    other ∈ keys (put key value entries) ↔ other = key ∨ other ∈ keys entries := by
  rw [← get?_isSome_iff, ← get?_isSome_iff, get?_put]
  by_cases h : other = key <;> simp [h]

theorem keys_put_of_mem {key : κ} {entries : List (κ × α)} (h : key ∈ keys entries) (value : α) :
    keys (put key value entries) = keys entries := by
  induction entries with
  | nil => simp [keys] at h
  | cons entry rest ih =>
    by_cases hk : entry.1 = key
    · simp [put, keys, hk]
    · have h' : key ∈ keys rest := by
        rcases List.mem_cons.1 h with h | h
        · exact absurd h.symm hk
        · exact h
      simpa [put, keys, hk] using ih h'

theorem put_of_not_mem {key : κ} {entries : List (κ × α)} (h : key ∉ keys entries) (value : α) :
    put key value entries = entries ++ [(key, value)] := by
  induction entries with
  | nil => rfl
  | cons entry rest ih =>
    simp only [keys, List.map_cons, List.mem_cons, not_or] at h
    simp [put, Ne.symm h.1, ih h.2]

theorem length_put (key : κ) (value : α) (entries : List (κ × α)) :
    (put key value entries).length = entries.length + if (get? key entries).isSome then 0 else 1 := by
  by_cases h : key ∈ keys entries
  · have same := congrArg List.length (keys_put_of_mem h value)
    simpa [keys, get?_isSome_iff.mpr h] using same
  · simp [put_of_not_mem h, get?_eq_none_iff.mpr h]

end TypeForward.Entries
