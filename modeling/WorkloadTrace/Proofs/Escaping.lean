import WorkloadTrace.QueryLine

/-!
# Escaped text

A trace line carries text only in its escaped form. An independent reader takes the backslash forms
back and refuses every bare quote, backslash and line break; it accepts exactly the escaped texts.
Escaping therefore loses nothing, keeps a text on one line and inside its quotes, and leaves every
other character, the separator of clauses among them, where it was.
-/

namespace WorkloadTrace

namespace Text

/-- A character that stands for itself inside a trace line. -/
def isPlain (c : CodePoint) : Bool :=
  c ≠ char '\\' && c ≠ char '\x22' && c ≠ char '\n' && c ≠ char '\r'

/-- The character that a backslash means together with the one after it. -/
def unescapeChar? (c : CodePoint) : Option CodePoint :=
  if c = char '\\' ∨ c = char '\x22' then some c
  else if c = char 'n' then some (char '\n')
  else if c = char 'r' then some (char '\r')
  else none

/-- The text that an escaped text stands for; none for text that is not escaped. -/
def unescape? : Text → Option Text
  | [] => some []
  | char '\\' :: c :: rest => (unescapeChar? c).bind fun d => (unescape? rest).map (d :: ·)
  | c :: rest => if isPlain c then (unescape? rest).map (c :: ·) else none

/-- Text without line breaks, so that it fits on one line. -/
def Unbroken (s : Text) : Prop := char '\n' ∉ s ∧ char '\r' ∉ s

theorem isPlain_iff {c : CodePoint} :
    isPlain c = true ↔ c ≠ char '\\' ∧ c ≠ char '\x22' ∧ c ≠ char '\n' ∧ c ≠ char '\r' := by
  simp [isPlain, and_assoc]

theorem escapeChar_eq_self {c : CodePoint} (h : isPlain c = true) : escapeChar c = [c] := by
  obtain ⟨h1, h2, h3, h4⟩ := isPlain_iff.1 h
  simp [escapeChar, h1, h2, h3, h4]

/-- Only the four characters that are not plain have a backslash form. -/
theorem escapeChar_eq_form {c : CodePoint} (h : isPlain c = false) :
    ∃ e, escapeChar c = [char '\\', e] ∧ unescapeChar? e = some c := by
  have hc : c = char '\\' ∨ c = char '\x22' ∨ c = char '\n' ∨ c = char '\r' := by
    refine Decidable.byContradiction fun hn => ?_
    simp only [not_or] at hn
    exact absurd (isPlain_iff.2 hn) (by simp [h])
  rcases hc with rfl | rfl | rfl | rfl
  · exact ⟨char '\\', rfl, rfl⟩
  · exact ⟨char '\x22', rfl, rfl⟩
  · exact ⟨char 'n', rfl, rfl⟩
  · exact ⟨char 'r', rfl, rfl⟩

private theorem unescape?_plain {c : CodePoint} (h : isPlain c = true) (s : Text) :
    unescape? (c :: s) = (unescape? s).map (c :: ·) := by
  have hc := (isPlain_iff.1 h).1
  cases s <;> simp [unescape?, hc, h]

/-- The reader takes one escaped character at a time. -/
theorem unescape?_escapeChar_append (c : CodePoint) (s : Text) :
    unescape? (escapeChar c ++ s) = (unescape? s).map (c :: ·) := by
  cases h : isPlain c with
  | true =>
    rw [escapeChar_eq_self h]
    exact unescape?_plain h s
  | false =>
    obtain ⟨e, he, hc⟩ := escapeChar_eq_form h
    rw [he]
    simp [unescape?, hc]

/-- Reading an escaped text gives the text back. -/
theorem unescape?_escape (s : Text) : unescape? (escape s) = some s := by
  induction s with
  | nil => rfl
  | cons c s ih => rw [escape_cons, unescape?_escapeChar_append, ih, Option.map_some]

private theorem escapeChar_unescapeChar? {c d : CodePoint} (h : unescapeChar? c = some d) :
    escapeChar d = [char '\\', c] := by
  unfold unescapeChar? at h
  split at h
  · rename_i hc
    obtain rfl := Option.some.inj h
    rcases hc with rfl | rfl <;> rfl
  · split at h
    · rename_i hc
      obtain rfl := Option.some.inj h
      exact hc ▸ rfl
    · split at h
      · rename_i hc
        obtain rfl := Option.some.inj h
        exact hc ▸ rfl
      · exact absurd h (by simp)

/-- The reader accepts nothing but escaped texts. -/
theorem eq_escape_of_unescape? {t s : Text} (h : unescape? t = some s) : t = escape s := by
  fun_induction unescape? t generalizing s with
  | case1 =>
    obtain rfl := Option.some.inj h
    rfl
  | case2 c rest ih =>
    obtain ⟨d, hd, hrest⟩ := Option.bind_eq_some_iff.1 h
    obtain ⟨u, hu, rfl⟩ := Option.map_eq_some_iff.1 hrest
    rw [escape_cons, escapeChar_unescapeChar? hd, ← ih hu]
    rfl
  | case3 c rest _ hc ih =>
    obtain ⟨u, hu, rfl⟩ := Option.map_eq_some_iff.1 h
    rw [escape_cons, escapeChar_eq_self hc, ← ih hu]
    rfl
  | case4 => exact absurd h (by simp)

/-- Reading and escaping are inverse to each other. -/
theorem unescape?_eq_some_iff {t s : Text} : unescape? t = some s ↔ t = escape s :=
  ⟨eq_escape_of_unescape?, fun h => h ▸ unescape?_escape s⟩

/-- No text is lost when it is escaped. -/
theorem escape_injective {s t : Text} (h : escape s = escape t) : s = t := by
  have := congrArg unescape? h
  rwa [unescape?_escape, unescape?_escape, Option.some.injEq] at this

/-- A character that no backslash form has is in an escaped text exactly when it is in the text. -/
theorem mem_escape_iff {c : CodePoint} (h : isPlain c = true) (hn : c ≠ char 'n')
    (hr : c ≠ char 'r')
    {s : Text} : c ∈ escape s ↔ c ∈ s := by
  obtain ⟨h1, h2, -, -⟩ := isPlain_iff.1 h
  have hform : unescapeChar? c = none := by simp [unescapeChar?, h1, h2, hn, hr]
  induction s with
  | nil => rfl
  | cons d s ih =>
    rw [escape_cons, List.mem_append, List.mem_cons]
    refine or_congr ?_ ih
    cases hd : isPlain d with
    | true => rw [escapeChar_eq_self hd, List.mem_singleton]
    | false =>
      have hcd : c ≠ d := by
        rintro rfl
        simp [h] at hd
      obtain ⟨e, he, hform'⟩ := escapeChar_eq_form hd
      have hce : c ≠ e := by
        rintro rfl
        simp [hform] at hform'
      simp [he, h1, hce, hcd]

/-- Escaping neither adds nor removes a separator of clauses. -/
theorem separator_mem_escape_iff {s : Text} :
    Predicate.separator ∈ escape s ↔ Predicate.separator ∈ s :=
  mem_escape_iff (by decide) (by decide) (by decide)

/-- Escaped text has no line break of either kind. -/
theorem unbroken_escape (s : Text) : Unbroken (escape s) := by
  have hbreak : ∀ c, isPlain c = false → unescapeChar? c = none → c ≠ char '\\' → c ∉ escape s := by
    intro c hc hform hb hmem
    obtain ⟨d, -, hd⟩ := List.mem_flatMap.1 hmem
    cases hplain : isPlain d with
    | true =>
      rw [escapeChar_eq_self hplain, List.mem_singleton] at hd
      rw [hd, hplain] at hc
      exact absurd hc (by decide)
    | false =>
      obtain ⟨e, he, hform'⟩ := escapeChar_eq_form hplain
      rw [he, List.mem_cons, List.mem_singleton] at hd
      obtain rfl := hd.resolve_left hb
      exact absurd (hform.symm.trans hform') (by simp)
  exact ⟨hbreak (char '\n') rfl rfl (by decide), hbreak (char '\r') rfl rfl (by decide)⟩

theorem escape_eq_self {s : Text} (h : ∀ c ∈ s, isPlain c = true) : escape s = s := by
  induction s with
  | nil => rfl
  | cons c s ih =>
    have hc := h c List.mem_cons_self
    have hs := ih fun d hd => h d (List.mem_cons_of_mem _ hd)
    rw [escape_cons, escapeChar_eq_self hc, hs]
    rfl

end Text

end WorkloadTrace
