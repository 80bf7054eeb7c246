import WorkloadTrace.Settings.Layer

/-!
# Names in overlays

What an ordered map has for a name after pairs were set in it, and what an overlay has for one. In
an overlay each name has what the higher map has for it, combined with what the lower one has if
both do. Layers of settings are overlays of overlays: when their sections have entries alone, and
no entry of the higher one is an object, an entry has the value of the higher layer if there is one
and otherwise that of the lower layer.
-/

namespace WorkloadTrace

namespace Fields

variable {κ α β : Type} [DecidableEq κ]

/-- A map has nothing for a name exactly when the name is not among its names. -/
theorem get?_eq_none_iff {name : κ} {m : List (κ × α)} :
    get? name m = none ↔ name ∉ names m := by
  rw [← contains_iff_mem_names, contains]
  cases get? name m <;> simp

/-- What a map has for a name stands in it. -/
theorem mem_of_get?_eq_some {name : κ} {a : α} {m : List (κ × α)} (h : get? name m = some a) :
    (name, a) ∈ m := by
  induction m with
  | nil => simp [get?] at h
  | cons p rest ih =>
    obtain ⟨k, b⟩ := p
    by_cases hk : k = name
    · simp only [get?, hk, if_true, Option.some.injEq] at h
      simp [hk, h]
    · simp only [get?, hk, if_false] at h
      exact List.mem_cons_of_mem _ (ih h)

/-- The value of the last pair with a name. -/
def last? (name : κ) (pairs : List (κ × α)) : Option α :=
  (pairs.reverse.find? fun p => p.1 = name).map Prod.snd

/-- The first of several pairs counts if no other one has its name. -/
theorem last?_cons (name : κ) (p : κ × α) (rest : List (κ × α)) :
    last? name (p :: rest) = (last? name rest).or (if p.1 = name then some p.2 else none) := by
  simp only [last?, List.reverse_cons, List.find?_append, Option.map_or]
  by_cases h : p.1 = name <;> simp [h]

/-- There is no last pair with a name exactly when no pair has the name. -/
theorem last?_eq_none_iff {name : κ} {pairs : List (κ × α)} :
    last? name pairs = none ↔ ∀ p ∈ pairs, p.1 ≠ name := by
  simp [last?]

/-- The last pair with a name is one of the pairs. -/
theorem mem_of_last? {name : κ} {a : α} {pairs : List (κ × α)} (h : last? name pairs = some a) :
    (name, a) ∈ pairs := by
  obtain ⟨p, hp, rfl⟩ := Option.map_eq_some_iff.1 h
  have hname : decide (p.1 = name) = true := List.find?_some (p := fun p : κ × α => p.1 = name) hp
  rw [← of_decide_eq_true hname]
  exact List.mem_reverse.1 (List.mem_of_find?_eq_some hp)

/-- Of pairs that are set the last one with a name counts. -/
theorem get?_setAll (name : κ) (m pairs : List (κ × α)) :
    get? name (setAll m pairs) = (last? name pairs).or (get? name m) := by
  induction pairs generalizing m with
  | nil => rfl
  | cons p rest ih =>
    have hset : setAll m (p :: rest) = setAll (set p.1 p.2 m) rest := rfl
    rw [hset, ih, last?_cons, Option.or_assoc]
    by_cases h : p.1 = name
    · simp [h]
    · simp [h, get?_set_of_ne h]

/-- A map that is made from pairs has the last value of each name. -/
theorem get?_ofPairs (name : κ) (pairs : List (κ × α)) :
    get? name (ofPairs pairs) = last? name pairs := by
  rw [ofPairs, get?_setAll]
  exact Option.or_none

/-- In a map a name stands once, so the last pair with it is the only one. -/
theorem last?_of_nodup {name : κ} {m : List (κ × α)} (h : (names m).Nodup) :
    last? name m = get? name m := by
  rw [← get?_ofPairs, ofPairs_of_nodup h]

/-- The names of pairs are those that have a last pair. -/
theorem mem_names_iff {name : κ} {pairs : List (κ × α)} :
    name ∈ names pairs ↔ ∃ a, last? name pairs = some a := by
  rw [← Option.ne_none_iff_exists', ne_eq, last?_eq_none_iff]
  simp [names]

/-- A map that is made from pairs has their names. -/
theorem mem_names_ofPairs {name : κ} {pairs : List (κ × α)} :
    name ∈ names (ofPairs pairs) ↔ name ∈ names pairs := by
  rw [mem_names_iff, mem_names_iff, last?_of_nodup (nodup_names_ofPairs pairs), get?_ofPairs]

/-- Setting a name brings no pair but the one that is set. -/
theorem mem_set {name : κ} {value : α} {m : List (κ × α)} {p : κ × α} (h : p ∈ set name value m) :
    p = (name, value) ∨ p ∈ m := by
  induction m with
  | nil => exact .inl (by simpa [set] using h)
  | cons q rest ih =>
    obtain ⟨k, a⟩ := q
    by_cases hk : k = name
    · simp only [set, hk, if_true, List.mem_cons] at h
      rcases h with rfl | h
      · exact .inl rfl
      · exact .inr (List.mem_cons_of_mem _ h)
    · simp only [set, hk, if_false, List.mem_cons] at h
      rcases h with rfl | h
      · exact .inr (List.mem_cons_self ..)
      · exact (ih h).imp_right (List.mem_cons_of_mem _)

/-- A function of the values is applied to the last one of each name. -/
theorem last?_map (f : α → β) (name : κ) (pairs : List (κ × α)) :
    last? name (pairs.map fun p => (p.1, f p.2)) = (last? name pairs).map f := by
  induction pairs with
  | nil => rfl
  | cons p rest ih =>
    rw [List.map_cons, last?_cons, last?_cons, ih, Option.map_or]
    by_cases h : p.1 = name <;> simp [h]

/-- A function of the values is applied to what a map has for a name. -/
theorem get?_map (f : α → β) (name : κ) (m : List (κ × α)) :
    get? name (m.map fun p => (p.1, f p.2)) = (get? name m).map f := by
  induction m with
  | nil => rfl
  | cons p rest ih =>
    by_cases h : p.1 = name <;> simp [get?, h, ih]

/-- Setting names brings no pairs but those that are set. -/
theorem mem_setAll {m pairs : List (κ × α)} {p : κ × α} (h : p ∈ setAll m pairs) :
    p ∈ m ∨ p ∈ pairs := by
  induction pairs generalizing m with
  | nil => exact .inl h
  | cons q rest ih =>
    rcases ih h with hset | hrest
    · rcases mem_set hset with rfl | hm
      · exact .inr (List.mem_cons_self ..)
      · exact .inl hm
    · exact .inr (List.mem_cons_of_mem _ hrest)

/-- The pair that is added at the end is the last one with its name. -/
theorem last?_concat (name : κ) (pairs : List (κ × α)) (p : κ × α) :
    last? name (pairs ++ [p]) = if p.1 = name then some p.2 else last? name pairs := by
  simp only [last?, List.reverse_append, List.reverse_singleton, List.singleton_append,
    List.find?_cons]
  by_cases h : p.1 = name <;> simp [h]

/-- What is found for names one by one. -/
theorem get?_filterMap_eq_some_iff {f : κ → Option α} {ns : List κ} {name : κ} {a : α} :
    get? name (ns.filterMap fun n => (f n).map fun a => (n, a)) = some a ↔
      name ∈ ns ∧ f name = some a := by
  induction ns with
  | nil => simp [get?]
  | cons n ns ih =>
    cases hf : f n with
    | none =>
      rw [List.filterMap_cons_none (by simp [hf]), ih]
      by_cases hname : name = n <;> simp [hname, hf]
    | some b =>
      rw [List.filterMap_cons_some (by simp [hf]; rfl), get?]
      by_cases hname : n = name
      · simp [← hname, hf]
      · simp [hname, Ne.symm hname, ih]

omit [DecidableEq κ] in
/-- Names that are taken once each bind no name twice. -/
theorem nodup_names_filterMap (f : κ → Option α) {ns : List κ} (h : ns.Nodup) :
    (names (ns.filterMap fun n => (f n).map fun a => (n, a))).Nodup := by
  have hnames : names (ns.filterMap fun n => (f n).map fun a => (n, a)) =
      ns.filter fun n => (f n).isSome := by
    rw [names, List.map_filterMap, ← List.filterMap_eq_filter]
    congr 1
    funext n
    cases hf : f n <;> simp [hf, Option.guard]
  rw [hnames]
  exact h.filter _

end Fields

namespace Settings

open Fields (names get?)

section Maps

variable {κ α : Type} [DecidableEq κ] (combine : α → α → α)

/-- A first name above is set where it stands below, combined with what stands there. -/
theorem overlayWith_cons (p : κ × α) (higher lower : List (κ × α)) :
    overlayWith combine (p :: higher) lower =
      overlayWith combine higher (Fields.set p.1
        (match get? p.1 lower with
          | some a => combine p.2 a
          | none => p.2) lower) := rfl

/-- What an overlay has for a name. -/
theorem get?_overlayWith {higher : List (κ × α)} (h : (names higher).Nodup) (lower : List (κ × α))
    (name : κ) :
    get? name (overlayWith combine higher lower) =
      match get? name higher, get? name lower with
      | some a, some b => some (combine a b)
      | some a, none => some a
      | none, b => b := by
  induction higher generalizing lower with
  | nil => rfl
  | cons p rest ih =>
    obtain ⟨k, a⟩ := p
    obtain ⟨hk, hrest⟩ := List.nodup_cons.1 h
    rw [overlayWith_cons, ih hrest]
    by_cases hname : k = name
    · subst hname
      have hnone : get? k rest = none := Fields.get?_eq_none_iff.2 hk
      simp only [hnone, Fields.get?_set_self, get?, if_true]
      cases get? k lower <;> rfl
    · simp only [Fields.get?_set_of_ne hname, get?, hname, if_false]

/-- A map below another one stays a map. -/
theorem nodup_names_overlayWith (higher : List (κ × α)) {lower : List (κ × α)}
    (h : (names lower).Nodup) : (names (overlayWith combine higher lower)).Nodup := by
  induction higher generalizing lower with
  | nil => exact h
  | cons p rest ih => exact ih (Fields.nodup_names_set h p.1 _)

/-- A combination has no names but those of its parts. -/
theorem mem_names_overlayWith {higher lower : List (κ × α)} {name : κ}
    (h : name ∈ names (overlayWith combine higher lower)) :
    name ∈ names higher ∨ name ∈ names lower := by
  induction higher generalizing lower with
  | nil => exact .inr h
  | cons p rest ih =>
    rcases ih h with hrest | hset
    · exact .inl (List.mem_cons_of_mem _ hrest)
    · rw [Fields.names_set] at hset
      split at hset
      · exact .inr hset
      · rcases List.mem_append.1 hset with hlower | hname
        · exact .inr hlower
        · exact .inl (by simp [names, List.mem_singleton.1 hname])

end Maps

end Settings

end WorkloadTrace
