import WorkloadTrace.Proofs.Clauses
import WorkloadTrace.Proofs.SessionTrail

/-!
# The access context of a line

A line says who asks and why by the two predicates of an identity. A predicate that is among the
pieces of the clause already is not written again, so what follows the clause are the predicates
that it misses. A line ends with the whole context exactly when its last pieces are the two
predicates.
-/

namespace WorkloadTrace

namespace Decimal

/-- A digit is written into a trace as it is. -/
theorem isPlain_of_isDigit {c : CodePoint} (h : isDigit c = true) : Text.isPlain c = true := by
  refine Text.isPlain_iff.2 ⟨?_, ?_, ?_, ?_⟩ <;> rintro rfl <;> exact absurd h (by decide)

/-- A numeral stands in a line as it is. -/
@[simp] theorem escape_ofNat (n : Nat) : Text.escape (ofNat n) = ofNat n :=
  Text.escape_eq_self fun _ hc => isPlain_of_isDigit (isDigit_of_mem_ofNat hc)

/-- No numeral has a separator in it. -/
theorem separator_not_mem_ofNat (n : Nat) : Predicate.separator ∉ ofNat n :=
  fun h => absurd (isDigit_of_mem_ofNat h) (by decide)

end Decimal

namespace Identity

/-- The access context of an identity as the end of a line. -/
def contextEnding (i : Identity) : Text :=
  "&session-key-is(".toText ++ i.user ++ ")&purpose-is(".toText ++ i.purpose ++ ")\n".toText

/-- The predicates of an identity that are not among given pieces. -/
def missing (i : Identity) (pieces : List Text) : List Text :=
  [i.userPredicate, i.purposePredicate].filter fun t => !pieces.contains t

/-- The predicate of a user as it is written. -/
theorem userPredicate_eq (i : Identity) :
    i.userPredicate = "session-key-is(".toText ++ Text.escape i.user ++ [char ')'] := rfl

/-- The predicate of a purpose as it is written. -/
theorem purposePredicate_eq (i : Identity) :
    i.purposePredicate = "purpose-is(".toText ++ Text.escape i.purpose ++ [char ')'] := rfl

/-- The predicate of a user is not empty, whoever the user is. -/
theorem userPredicate_ne_nil (i : Identity) : i.userPredicate ≠ [] := by
  rw [userPredicate_eq]
  simp

/-- Nor is that of a purpose. -/
theorem purposePredicate_ne_nil (i : Identity) : i.purposePredicate ≠ [] := by
  rw [purposePredicate_eq]
  simp

/-- No user has the predicate of a purpose, since the two begin differently. -/
theorem userPredicate_ne_purposePredicate (i j : Identity) :
    i.userPredicate ≠ j.purposePredicate := by
  rw [userPredicate_eq, purposePredicate_eq]
  intro h
  have hhead : some (char 's') = some (char 'p') := congrArg List.head? h
  exact absurd hhead (by decide)

/-- A separator in a predicate comes from what it encloses. -/
theorem separator_mem_enclosed_iff {name content : Text} (hname : Predicate.separator ∉ name) :
    Predicate.separator ∈ name ++ content ++ [char ')'] ↔ Predicate.separator ∈ content := by
  rw [List.mem_append, List.mem_append]
  constructor
  · rintro ((h | h) | h)
    · exact absurd h hname
    · exact h
    · exact absurd h (by decide)
  · exact fun h => Or.inl (Or.inr h)

/-- A separator in the predicate of a user comes from the user. -/
theorem separator_mem_userPredicate_iff {i : Identity} :
    Predicate.separator ∈ i.userPredicate ↔ Predicate.separator ∈ i.user := by
  rw [userPredicate_eq, separator_mem_enclosed_iff (by decide), Text.separator_mem_escape_iff]

/-- One in the predicate of a purpose comes from the purpose. -/
theorem separator_mem_purposePredicate_iff {i : Identity} :
    Predicate.separator ∈ i.purposePredicate ↔ Predicate.separator ∈ i.purpose := by
  rw [purposePredicate_eq, separator_mem_enclosed_iff (by decide), Text.separator_mem_escape_iff]

/-- The pieces of predicates without the separator are the predicates. -/
theorem flatMap_tokens_eq_self {parts : List Text}
    (h : ∀ t ∈ parts, t ≠ [] ∧ Predicate.separator ∉ t) : parts.flatMap tokens = parts := by
  induction parts with
  | nil => rfl
  | cons t ts ih =>
    obtain ⟨hne, hsep⟩ := h t List.mem_cons_self
    have htail := ih fun t' ht' => h t' (List.mem_cons_of_mem _ ht')
    rw [List.flatMap_cons, tokens_eq_singleton hne hsep, htail, List.singleton_append]

/-- The context of a clause joins the predicates that its pieces do not have. -/
theorem context_eq_join_missing (i : Identity) (clause : Text) :
    i.context clause = Predicate.join (i.missing (tokens clause)) := rfl

/-- A predicate is missing when it is one of the two and is not among the pieces. -/
theorem mem_missing_iff {i : Identity} {pieces : List Text} {t : Text} :
    t ∈ i.missing pieces ↔ (t = i.userPredicate ∨ t = i.purposePredicate) ∧ t ∉ pieces := by
  simp [missing]

/-- Two predicates of which those that are there already are left out stand at the end exactly when
none is there, the first is the last piece, or both are the last pieces in their order. -/
theorem pair_suffix_append_missing_iff (i : Identity) (pieces : List Text) :
    [i.userPredicate, i.purposePredicate] <:+ pieces ++ i.missing pieces ↔
      i.userPredicate ∉ pieces ∧ i.purposePredicate ∉ pieces ∨
        i.purposePredicate ∉ pieces ∧ pieces.getLast? = some i.userPredicate ∨
        [i.userPredicate, i.purposePredicate] <:+ pieces := by
  have hne := userPredicate_ne_purposePredicate i i
  have hboth : [i.userPredicate, i.purposePredicate] <:+ pieces →
      i.userPredicate ∈ pieces ∧ i.purposePredicate ∈ pieces :=
    fun h => ⟨h.subset (by simp), h.subset (by simp)⟩
  by_cases hu : i.userPredicate ∈ pieces
  · by_cases hp : i.purposePredicate ∈ pieces
    · have hmissing : i.missing pieces = [] := by simp [missing, hu, hp]
      simp [hmissing, hu, hp]
    · have hmissing : i.missing pieces = [i.purposePredicate] := by simp [missing, hu, hp]
      have hsplit : [i.userPredicate, i.purposePredicate] =
          [i.userPredicate] ++ [i.purposePredicate] := rfl
      have hnot : ¬[i.userPredicate, i.purposePredicate] <:+ pieces := fun h => hp (hboth h).2
      rw [hmissing]
      simp only [hu, hp, hnot, not_true_eq_false, not_false_eq_true, false_and, true_and, or_false,
        false_or]
      rw [hsplit, List.suffix_append_self_iff, List.singleton_suffix_iff_getLast?_eq_some]
  · have hnot : ¬[i.userPredicate, i.purposePredicate] <:+ pieces := fun h => hu (hboth h).1
    have hlast : pieces.getLast? ≠ some i.userPredicate := fun h => hu (List.mem_of_getLast? h)
    by_cases hp : i.purposePredicate ∈ pieces
    · have hmissing : i.missing pieces = [i.userPredicate] := by simp [missing, hu, hp]
      simp only [hmissing, hu, hp, hnot, hlast, not_true_eq_false, and_false, or_false, iff_false]
      rintro ⟨front, hfront⟩
      have := congrArg List.getLast? hfront
      simp [hne.symm] at this
    · have hmissing : i.missing pieces = [i.userPredicate, i.purposePredicate] := by
        simp [missing, hu, hp]
      simp [hmissing, hu, hp]

/-- With the missing predicates there are always two pieces at least. -/
theorem two_le_length_append_missing (i : Identity) (pieces : List Text) :
    2 ≤ (pieces ++ i.missing pieces).length := by
  have hmem : ∀ t, t = i.userPredicate ∨ t = i.purposePredicate →
      t ∈ pieces ++ i.missing pieces := by
    intro t ht
    by_cases h : t ∈ pieces
    · exact List.mem_append_left _ h
    · exact List.mem_append_right _ (mem_missing_iff.2 ⟨ht, h⟩)
  have huser := hmem i.userPredicate (Or.inl rfl)
  have hpurpose := hmem i.purposePredicate (Or.inr rfl)
  match h : pieces ++ i.missing pieces with
  | [] => simp [h] at huser
  | [x] =>
    rw [h, List.mem_singleton] at huser hpurpose
    exact absurd (huser.trans hpurpose.symm) (userPredicate_ne_purposePredicate i i)
  | _ :: _ :: _ => simp

/-- An identity whose predicates do not contain the separator. -/
def IsWhole (i : Identity) : Prop :=
  Predicate.separator ∉ i.user ∧ Predicate.separator ∉ i.purpose

/-- The identity of a key has numerals, so its predicates are not cut. -/
theorem isWhole_ofKey (w : Workload) (key : Value) : (ofKey w key).IsWhole :=
  ⟨Decimal.separator_not_mem_ofNat _, Decimal.separator_not_mem_ofNat _⟩

/-- The predicates of a whole identity have no separator in them. -/
theorem IsWhole.separator_not_mem {i : Identity} (hi : i.IsWhole) {t : Text}
    (ht : t = i.userPredicate ∨ t = i.purposePredicate) : Predicate.separator ∉ t := by
  rcases ht with rfl | rfl
  · exact fun h => hi.1 (separator_mem_userPredicate_iff.1 h)
  · exact fun h => hi.2 (separator_mem_purposePredicate_iff.1 h)

/-- The pieces of a clause with the access context after it. -/
theorem tokens_join_context {i : Identity} (hi : i.IsWhole) (clause : Text) :
    tokens (Predicate.join [clause, i.context clause]) =
      tokens clause ++ i.missing (tokens clause) := by
  have hparts : ∀ t ∈ i.missing (tokens clause), t ≠ [] ∧ Predicate.separator ∉ t := by
    intro t ht
    have hside := (mem_missing_iff.1 ht).1
    refine ⟨?_, hi.separator_not_mem hside⟩
    rcases hside with rfl | rfl
    · exact i.userPredicate_ne_nil
    · exact i.purposePredicate_ne_nil
  rw [tokens_join, context_eq_join_missing]
  simp only [List.flatMap_cons, List.flatMap_nil, List.append_nil]
  rw [tokens_join, flatMap_tokens_eq_self hparts]

/-- Where nothing is escaped, the ending joins the two predicates as they are. -/
theorem contextEnding_eq {i : Identity} (huser : Text.escape i.user = i.user)
    (hpurpose : Text.escape i.purpose = i.purpose) :
    i.contextEnding = Predicate.separator ::
      Text.joinWith [Predicate.separator] [i.userPredicate, i.purposePredicate] ++ [char '\n'] := by
  have hending : i.contextEnding =
      "&session-key-is(".toText ++ i.user ++ ")&purpose-is(".toText ++ i.purpose ++
        ")\n".toText := rfl
  have hopening : "&session-key-is(".toText = char '&' :: "session-key-is(".toText := rfl
  have hmiddle : ")&purpose-is(".toText = char ')' :: char '&' :: "purpose-is(".toText := rfl
  have hclosing : ")\n".toText = [char ')', char '\n'] := rfl
  rw [userPredicate_eq, purposePredicate_eq, huser, hpurpose,
    Text.joinWith_cons_of_ne_nil _ _ (by simp), Text.joinWith_singleton, hending, hopening, hmiddle,
    hclosing]
  simp [Predicate.separator]

/-- The access context of a key as the end of a line consists of its two predicates. -/
theorem contextEnding_ofKey (w : Workload) (key : Value) :
    (ofKey w key).contextEnding = Predicate.separator ::
      Text.joinWith [Predicate.separator]
        [(ofKey w key).userPredicate, (ofKey w key).purposePredicate] ++ [char '\n'] :=
  contextEnding_eq (Decimal.escape_ofNat _) (Decimal.escape_ofNat _)

end Identity

namespace QueryLine

/-- The pieces of a line are those of its call and then those of its clause. -/
theorem splitOn_separator_body (q : QueryLine) :
    Text.splitOn Predicate.separator (q.renderCall ++ q.renderClause) =
      Text.splitOn Predicate.separator q.renderCall ++ Identity.tokens q.clause := by
  by_cases h : q.clause = []
  · simp [renderClause, h]
  · rw [Identity.tokens_of_ne_nil h, ← Text.splitOn_append_sep]
    simp [renderClause, h]

/-- A line ends with the access context of a key exactly when its clause has the two predicates as
its last pieces. -/
theorem contextEnding_suffix_render_iff {w : Workload} {key : Value} {q : QueryLine}
    (hlength : 2 ≤ (Identity.tokens q.clause).length) :
    (Identity.ofKey w key).contextEnding <:+ q.render ↔
      [(Identity.ofKey w key).userPredicate, (Identity.ofKey w key).purposePredicate] <:+
        Identity.tokens q.clause := by
  generalize hi : Identity.ofKey w key = i
  have hwhole : i.IsWhole := hi ▸ Identity.isWhole_ofKey w key
  have hparts : ∀ t ∈ [i.userPredicate, i.purposePredicate], Predicate.separator ∉ t :=
    fun t ht => hwhole.separator_not_mem (by simpa using ht)
  have hending := hi ▸ Identity.contextEnding_ofKey w key
  rw [hending, render, List.suffix_append_self_iff,
    Text.sep_cons_joinWith_suffix_iff (by simp) hparts, splitOn_separator_body]
  constructor
  · rintro ⟨front, -, hsplit⟩
    have hpair := List.suffix_append front [i.userPredicate, i.purposePredicate]
    rw [← hsplit] at hpair
    exact List.suffix_of_suffix_length_le hpair (List.suffix_append _ _) hlength
  · rintro ⟨front, hfront⟩
    refine ⟨Text.splitOn Predicate.separator q.renderCall ++ front, ?_, ?_⟩
    · simp [Text.splitOn_ne_empty]
    · rw [List.append_assoc, hfront]

end QueryLine

end WorkloadTrace
