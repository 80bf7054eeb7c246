import WorkloadTrace.Call
import WorkloadTrace.Proofs.Escaping

/-!
# The pieces of a clause

A clause is cut into pieces at its separator. Values are free to contain the separator, so the
pieces of a clause are not the predicates it was joined from; but the pieces of a join are always
the pieces of its parts in order, and a clause is its pieces put together again. What a text ends
with is therefore decided by its last pieces.
-/

namespace WorkloadTrace

namespace Text

@[simp] theorem joinWith_nil {α : Type} (sep : List α) : joinWith sep [] = [] := rfl

@[simp] theorem joinWith_singleton {α : Type} (sep p : List α) : joinWith sep [p] = p :=
  List.intercalate_singleton

/-- A first part has a separator behind it when others follow. -/
theorem joinWith_cons_of_ne_nil {α : Type} (sep p : List α) {parts : List (List α)}
    (h : parts ≠ []) :
    joinWith sep (p :: parts) = p ++ sep ++ joinWith sep parts :=
  List.intercalate_cons_of_ne_nil h

/-- Joining two runs of parts puts the separator between the two results. -/
theorem joinWith_append {α : Type} (sep : List α) {a b : List (List α)} (ha : a ≠ [])
    (hb : b ≠ []) :
    joinWith sep (a ++ b) = joinWith sep a ++ sep ++ joinWith sep b := by
  induction a with
  | nil => exact absurd rfl ha
  | cons p ps ih =>
    cases ps with
    | nil => rw [List.singleton_append, joinWith_cons_of_ne_nil sep p hb, joinWith_singleton]
    | cons q qs =>
      have hq : q :: qs ≠ [] := by simp
      have htail := ih hq
      rw [List.cons_append, joinWith_cons_of_ne_nil sep p (by simp), htail,
        joinWith_cons_of_ne_nil sep p hq]
      simp only [List.append_assoc]

/-- What stands in joined parts stands in the separator or in one of the parts. -/
theorem mem_joinWith {α : Type} {sep : List α} {parts : List (List α)} {c : α}
    (h : c ∈ joinWith sep parts) : c ∈ sep ∨ ∃ p ∈ parts, c ∈ p := by
  induction parts with
  | nil => exact absurd h List.not_mem_nil
  | cons p ps ih =>
    by_cases hps : ps = []
    · rw [hps, joinWith_singleton] at h
      exact .inr ⟨p, List.mem_cons_self .., h⟩
    · rw [joinWith_cons_of_ne_nil sep p hps, List.mem_append, List.mem_append] at h
      rcases h with (h | h) | h
      · exact .inr ⟨p, List.mem_cons_self .., h⟩
      · exact .inl h
      · rcases ih h with h | ⟨q, hq, h⟩
        · exact .inl h
        · exact .inr ⟨q, List.mem_cons_of_mem _ hq, h⟩

/-- What holds of the separator and of the parts, character by character, holds of the joined text.
-/
theorem forall_mem_joinWith {α : Type} {p : α → Prop} {sep : List α} {parts : List (List α)}
    (hsep : ∀ c ∈ sep, p c) (h : ∀ part ∈ parts, ∀ c ∈ part, p c) :
    ∀ c ∈ joinWith sep parts, p c := by
  intro c hc
  rcases mem_joinWith hc with hc | ⟨part, hpart, hc⟩
  · exact hsep c hc
  · exact h part hpart c hc

variable {α : Type} [DecidableEq α]

/-- Texts are split as lists are. -/
theorem splitOn_eq_listSplitOn (sep : α) (s : List α) : splitOn sep s = s.splitOn sep := by
  induction s with
  | nil => simp [splitOn]
  | cons c cs ih =>
    rw [splitOn, ih, List.splitOn_cons_eq_if_modifyHead]
    cases h : cs.splitOn sep with
    | nil => exact absurd h (List.splitOn_ne_nil sep cs)
    | cons w ws => simp

/-- The pieces of two texts with a separator between them are the pieces of both. -/
theorem splitOn_append_sep (sep : α) (a b : List α) :
    splitOn sep (a ++ sep :: b) = splitOn sep a ++ splitOn sep b := by
  simp only [splitOn_eq_listSplitOn]
  exact List.splitOn_append_cons_self a b

/-- The pieces of a text, put together, are the text. -/
@[simp] theorem joinWith_splitOn (sep : α) (s : List α) : joinWith [sep] (splitOn sep s) = s := by
  rw [splitOn_eq_listSplitOn, joinWith, List.intercalate_splitOn]

/-- Pieces without the separator are found again in what they are put together to. -/
theorem splitOn_joinWith {sep : α} {parts : List (List α)} (hne : parts ≠ [])
    (h : ∀ p ∈ parts, sep ∉ p) : splitOn sep (joinWith [sep] parts) = parts := by
  rw [splitOn_eq_listSplitOn]
  exact List.splitOn_intercalate sep h hne

/-- There always is a part. -/
theorem splitOn_ne_empty (sep : α) (s : List α) : splitOn sep s ≠ [] := by
  rw [splitOn_eq_listSplitOn]
  exact List.splitOn_ne_nil sep s

/-- No piece contains the separator. -/
theorem sep_not_mem_of_mem_splitOn {sep : α} {s p : List α} (h : p ∈ splitOn sep s) :
    sep ∉ p := by
  induction s generalizing p with
  | nil =>
    simp only [splitOn, List.mem_singleton] at h
    simp [h]
  | cons c cs ih =>
    rw [splitOn_eq_listSplitOn, List.splitOn_cons_eq_if_modifyHead, ← splitOn_eq_listSplitOn] at h
    cases hw : splitOn sep cs with
    | nil => exact absurd hw (splitOn_ne_empty sep cs)
    | cons w ws =>
      rw [hw] at h ih
      by_cases hc : c = sep
      · simp only [hc, beq_self_eq_true, if_true, List.mem_cons (a := p) (b := [])] at h
        rcases h with rfl | h
        · simp
        · exact ih h
      · have hb : (c == sep) = false := by simp [hc]
        simp only [hb, Bool.false_eq_true, if_false, List.modifyHead_cons, List.mem_cons] at h
        rcases h with rfl | h
        · have := ih (List.mem_cons_self)
          simp [this, Ne.symm hc]
        · exact ih (List.mem_cons_of_mem _ h)

/-- A text ends with given pieces, each after a separator, exactly when they are its last pieces
and not all of them. -/
theorem sep_cons_joinWith_suffix_iff {sep : α} {parts : List (List α)} (hne : parts ≠ [])
    (h : ∀ p ∈ parts, sep ∉ p) (s : List α) :
    sep :: joinWith [sep] parts <:+ s ↔ ∃ front, front ≠ [] ∧ splitOn sep s = front ++ parts := by
  constructor
  · rintro ⟨a, rfl⟩
    exact ⟨splitOn sep a, splitOn_ne_empty sep a, by
      rw [splitOn_append_sep, splitOn_joinWith hne h]⟩
  · rintro ⟨front, hfront, hs⟩
    refine ⟨joinWith [sep] front, ?_⟩
    have hjoin := joinWith_append [sep] hfront hne
    rw [← hs, joinWith_splitOn] at hjoin
    rw [hjoin]
    simp

end Text

namespace Text

/-- Some parts that are not empty are joined to a text that is not. -/
theorem joinWith_ne_nil {sep : Text} {parts : List Text} (hne : parts ≠ [])
    (h : ∀ p ∈ parts, p ≠ []) : joinWith sep parts ≠ [] := by
  cases parts with
  | nil => exact absurd rfl hne
  | cons p ps =>
    have hp := h p List.mem_cons_self
    cases ps with
    | nil => simpa using hp
    | cons q qs =>
      rw [joinWith_cons_of_ne_nil sep p (by simp)]
      simp [hp]

end Text

namespace Identity

@[simp] theorem tokens_nil : tokens [] = [] := rfl

/-- The pieces of a clause that is not empty are its parts between separators. -/
theorem tokens_of_ne_nil {clause : Text} (h : clause ≠ []) :
    tokens clause = Text.splitOn Predicate.separator clause := by
  simp [tokens, h]

/-- A clause is its pieces put together. -/
@[simp] theorem joinWith_tokens (clause : Text) :
    Text.joinWith [Predicate.separator] (tokens clause) = clause := by
  by_cases h : clause = []
  · simp [h]
  · rw [tokens_of_ne_nil h, Text.joinWith_splitOn]

/-- Clauses with the same pieces are the same. -/
theorem tokens_injective {a b : Text} (h : tokens a = tokens b) : a = b := by
  rw [← joinWith_tokens a, h, joinWith_tokens]

/-- No piece has a separator in it. -/
theorem separator_not_mem_of_mem_tokens {clause t : Text} (h : t ∈ tokens clause) :
    Predicate.separator ∉ t := by
  by_cases hc : clause = []
  · simp [hc] at h
  · rw [tokens_of_ne_nil hc] at h
    exact Text.sep_not_mem_of_mem_splitOn h

/-- A predicate without the separator is the only piece of itself. -/
theorem tokens_eq_singleton {t : Text} (hne : t ≠ []) (h : Predicate.separator ∉ t) :
    tokens t = [t] := by
  rw [tokens_of_ne_nil hne, Text.splitOn_eq_singleton h]

/-- The pieces of joined parts are those of the parts. -/
private theorem tokens_joinWith {parts : List Text} (h : ∀ p ∈ parts, p ≠ []) :
    tokens (Text.joinWith [Predicate.separator] parts) = parts.flatMap tokens := by
  induction parts with
  | nil => rfl
  | cons p ps ih =>
    have hp := h p List.mem_cons_self
    have hps : ∀ q ∈ ps, q ≠ [] := fun q hq => h q (List.mem_cons_of_mem _ hq)
    by_cases hnil : ps = []
    · simp [hnil]
    · have hjoin : Text.joinWith [Predicate.separator] ps ≠ [] := Text.joinWith_ne_nil hnil hps
      have hcons := Text.joinWith_cons_of_ne_nil [Predicate.separator] p hnil
      rw [List.append_assoc, List.singleton_append] at hcons
      rw [hcons, tokens_of_ne_nil (by simp), Text.splitOn_append_sep, ← tokens_of_ne_nil hp,
        ← tokens_of_ne_nil hjoin, ih hps, List.flatMap_cons]

/-- Empty clauses have no pieces. -/
private theorem flatMap_tokens_filter (clauses : List Text) :
    (clauses.filter fun c => !c.isEmpty).flatMap tokens = clauses.flatMap tokens := by
  induction clauses with
  | nil => rfl
  | cons c cs ih => by_cases hc : c = [] <;> simp [hc, ih]

/-- The pieces of joined clauses are the pieces of each in order, whatever they contain. -/
theorem tokens_join (clauses : List Text) :
    tokens (Predicate.join clauses) = clauses.flatMap tokens := by
  have hparts : ∀ p ∈ clauses.filter fun c => !c.isEmpty, p ≠ [] := by
    intro p hp
    simpa using (List.mem_filter.1 hp).2
  rw [Predicate.join, tokens_joinWith hparts, flatMap_tokens_filter]

/-- The pieces of joined clauses without the separator are those that are not empty. -/
theorem tokens_join_of_whole {clauses : List Text}
    (h : ∀ c ∈ clauses, Predicate.separator ∉ c) :
    tokens (Predicate.join clauses) = clauses.filter fun c => !c.isEmpty := by
  rw [tokens_join]
  induction clauses with
  | nil => rfl
  | cons c cs ih =>
    obtain ⟨hc, hcs⟩ := List.forall_mem_cons.1 h
    rw [List.flatMap_cons, ih hcs]
    by_cases hnil : c = []
    · simp [hnil]
    · simp [tokens_eq_singleton hnil hc, hnil]

end Identity

namespace Predicate

/-- Joining two runs of clauses is joining the results. -/
theorem join_append (front rear : List Text) :
    join (front ++ rear) = join [join front, join rear] := by
  refine Identity.tokens_injective ?_
  simp only [Identity.tokens_join, List.flatMap_append, List.flatMap_cons, List.flatMap_nil,
    List.append_nil]

end Predicate

end WorkloadTrace
