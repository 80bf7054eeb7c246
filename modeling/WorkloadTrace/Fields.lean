import WorkloadTrace.Text

/-!
# Ordered maps

A map from names to values that keeps the order in which names were first added. Setting a name
that is present changes its value and keeps its place, so a list of pairs becomes a map with the
first position and the last value of each name. Names are texts unless another type is given.
-/

namespace WorkloadTrace

/-- Named values in the order of their names' first addition. -/
abbrev Fields (α : Type) := List (Text × α)

namespace Fields

variable {κ α : Type}

/-- The names in order. -/
def names (m : List (κ × α)) : List κ := m.map Prod.fst

variable [DecidableEq κ]

/-- The value of a name, if it is present. -/
def get? (name : κ) : List (κ × α) → Option α
  | [] => none
  | (k, a) :: rest => if k = name then some a else get? name rest

/-- Gives a name a value: in its place if it is present, otherwise at the end. -/
def set (name : κ) (value : α) : List (κ × α) → List (κ × α)
  | [] => [(name, value)]
  | (k, a) :: rest => if k = name then (k, value) :: rest else (k, a) :: set name value rest

/-- Sets every pair in turn. -/
def setAll (m pairs : List (κ × α)) : List (κ × α) :=
  pairs.foldl (fun acc p => set p.1 p.2 acc) m

/-- The map that a list of pairs denotes. -/
def ofPairs (pairs : List (κ × α)) : List (κ × α) := setAll [] pairs

/-- Whether a name is present. -/
def contains (name : κ) (m : List (κ × α)) : Bool := (get? name m).isSome

/-- Without the pairs that have one of the given names. -/
def eraseAll (gone : List κ) (m : List (κ × α)) : List (κ × α) :=
  m.filter fun p => !gone.contains p.1

/-- A set name has the value it was given. -/
@[simp] theorem get?_set_self (name : κ) (value : α) (m : List (κ × α)) :
    get? name (set name value m) = some value := by
  induction m with
  | nil => simp [set, get?]
  | cons p rest ih =>
    obtain ⟨k, a⟩ := p
    by_cases h : k = name <;> simp [set, get?, h, ih]

/-- Setting a name leaves the other names' values as they were. -/
theorem get?_set_of_ne {name other : κ} (h : name ≠ other) (value : α)
    (m : List (κ × α)) :
    get? other (set name value m) = get? other m := by
  induction m with
  | nil => simp [set, get?, h]
  | cons p rest ih =>
    obtain ⟨k, a⟩ := p
    by_cases hk : k = name
    · subst hk; simp [set, get?, h]
    · by_cases ho : k = other
      · subst ho; simp [set, get?, hk]
      · simp [set, get?, hk, ho, ih]

/-- A name is present exactly when it is among the names. -/
theorem contains_iff_mem_names {name : κ} {m : List (κ × α)} :
    contains name m = true ↔ name ∈ names m := by
  induction m with
  | nil => simp [contains, get?, names]
  | cons p rest ih =>
    obtain ⟨k, a⟩ := p
    by_cases hk : k = name
    · simp [contains, get?, names, hk]
    · have hk' : name ≠ k := Ne.symm hk
      simp only [contains, get?, hk, if_false, names, List.map_cons, List.mem_cons, hk', false_or]
      simpa [contains, names] using ih

/-- Setting a present name keeps the names; a new one is added at the end. -/
theorem names_set (name : κ) (value : α) (m : List (κ × α)) :
    names (set name value m) = if name ∈ names m then names m else names m ++ [name] := by
  induction m with
  | nil => simp [set, names]
  | cons p rest ih =>
    obtain ⟨k, a⟩ := p
    by_cases hk : k = name
    · simp [set, names, hk]
    · have hk' : name ≠ k := Ne.symm hk
      simp only [names] at ih
      by_cases hm : name ∈ rest.map Prod.fst
      · simp [set, names, hk, hk', ih, hm]
      · simp [set, names, hk, hk', ih, hm]

/-- Setting keeps the names distinct. -/
theorem nodup_names_set {m : List (κ × α)} (h : (names m).Nodup) (name : κ)
    (value : α) :
    (names (set name value m)).Nodup := by
  rw [names_set]
  split
  · exact h
  · rename_i hm
    exact List.nodup_append.2 ⟨h, by simp, by
      intro a ha b hb
      simp only [List.mem_singleton] at hb
      subst hb
      exact fun e => hm (e ▸ ha)⟩

/-- The names of a map are distinct. -/
theorem nodup_names_setAll {m : List (κ × α)} (h : (names m).Nodup)
    (pairs : List (κ × α)) :
    (names (setAll m pairs)).Nodup := by
  induction pairs generalizing m with
  | nil => exact h
  | cons p rest ih => exact ih (nodup_names_set h p.1 p.2)

/-- A map made from pairs has distinct names. -/
theorem nodup_names_ofPairs (pairs : List (κ × α)) : (names (ofPairs pairs)).Nodup :=
  nodup_names_setAll (by simp [names]) pairs

/-- A new name is added at the end. -/
theorem set_of_not_mem {name : κ} {m : List (κ × α)} (h : name ∉ names m) (value : α) :
    set name value m = m ++ [(name, value)] := by
  induction m with
  | nil => rfl
  | cons p rest ih =>
    obtain ⟨k, a⟩ := p
    simp only [names, List.map_cons, List.mem_cons, not_or] at h
    have hk : k ≠ name := Ne.symm h.1
    simp [set, hk, ih h.2]

/-- Pairs with distinct new names are added at the end as they are. -/
theorem setAll_of_nodup {m pairs : List (κ × α)}
    (h : (names (m ++ pairs)).Nodup) : setAll m pairs = m ++ pairs := by
  induction pairs generalizing m with
  | nil => simp [setAll]
  | cons p rest ih =>
    have hp : p.1 ∉ names m := by
      simp only [names, List.map_append, List.map_cons] at h
      intro hm
      have := (List.nodup_append.1 h).2.2 p.1 hm p.1 (by simp)
      exact this rfl
    have hs : setAll m (p :: rest) = setAll (set p.1 p.2 m) rest := rfl
    rw [hs, set_of_not_mem hp, ih]
    · simp
    · simpa [names] using h

/-- Pairs with distinct names are a map already. -/
theorem ofPairs_of_nodup {pairs : List (κ × α)} (h : (names pairs).Nodup) :
    ofPairs pairs = pairs := by
  have := @setAll_of_nodup κ α _ [] pairs (by simpa using h)
  simpa [ofPairs] using this

end Fields

end WorkloadTrace
