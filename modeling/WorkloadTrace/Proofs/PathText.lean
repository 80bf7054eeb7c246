import Mathlib.Data.List.DropRight
import WorkloadTrace.Proofs.Clauses
import WorkloadTrace.Settings

/-!
# The text of a path

A text denotes a path in normal form, and the text of such a path denotes it again. Blanks around a
text are no part of the path that it names in the settings; they are removed before the path is
read. Reading the path first gives another path when a blank stands next to a slash or to a point
that does not matter, and the blanks of an empty text are gone before anybody looks for them.
-/

namespace WorkloadTrace

namespace Text

variable {α : Type}

/-- Trimming drops from the front and then from the back. -/
theorem trimBy_eq_rdropWhile (p : α → Bool) (s : List α) :
    trimBy p s = (s.dropWhile p).rdropWhile p := rfl

/-- Nothing is left to remove where something was removed from both ends. -/
theorem trimBy_trimBy (p : α → Bool) (s : List α) : trimBy p (trimBy p s) = trimBy p s := by
  have hhead : (trimBy p s).dropWhile p = trimBy p s := by
    have hfront := List.rdropWhile_prefix p (l := s.dropWhile p)
    rw [trimBy_eq_rdropWhile, List.dropWhile_eq_self_iff]
    intro hpos
    rw [hfront.getElem hpos]
    exact List.dropWhile_get_zero_not _ s (hpos.trans_le hfront.length_le)
  rw [trimBy_eq_rdropWhile p (trimBy p s), hhead, trimBy_eq_rdropWhile, List.rdropWhile_idempotent]

/-- A stripped text has no blanks to strip. -/
theorem strip_strip (s : Text) : strip (strip s) = strip s := trimBy_trimBy isBlank s

/-- Nothing is left of a text that is all to be trimmed. -/
theorem trimBy_of_forall {p : α → Bool} {s : List α} (h : ∀ c ∈ s, p c = true) :
    trimBy p s = [] := by
  rw [trimBy_eq_rdropWhile, List.dropWhile_eq_nil_iff.2 h, List.rdropWhile_nil]

/-- A text that has nothing to be trimmed is left as it is. -/
theorem trimBy_of_forall_not {p : α → Bool} {s : List α} (h : ∀ c ∈ s, p c = false) :
    trimBy p s = s := by
  have hhead : s.dropWhile p = s := by
    rw [List.dropWhile_eq_self_iff]
    exact fun hpos => by simp [h _ (List.getElem_mem hpos)]
  rw [trimBy_eq_rdropWhile, hhead, List.rdropWhile_eq_self_iff]
  exact fun hne => by simp [h _ (List.getLast_mem hne)]

/-- What stands in a part stands in the text that was split. -/
theorem mem_of_mem_splitOn [DecidableEq α] {sep : α} {s p : List α} (hp : p ∈ splitOn sep s)
    {c : α} (hc : c ∈ p) : c ∈ s := by
  induction s generalizing p with
  | nil =>
    rw [splitOn, List.mem_singleton] at hp
    exact hp ▸ hc
  | cons d ds ih =>
    rw [splitOn] at hp
    cases hsplit : splitOn sep ds with
    | nil => exact absurd hsplit (splitOn_ne_empty sep ds)
    | cons w ws =>
      rw [hsplit] at hp ih
      simp only at hp
      split at hp
      · rcases List.mem_cons.1 hp with rfl | hp
        · exact absurd hc List.not_mem_nil
        · exact List.mem_cons_of_mem _ (ih hp hc)
      · rcases List.mem_cons.1 hp with rfl | hp
        · rcases List.mem_cons.1 hc with rfl | hc
          · exact List.mem_cons_self ..
          · exact List.mem_cons_of_mem _ (ih (List.mem_cons_self ..) hc)
        · exact List.mem_cons_of_mem _ (ih (List.mem_cons_of_mem _ hp) hc)

end Text

namespace Path

/-- A path as a text denotes it. -/
structure Normal (p : Path) : Prop where
  /-- The three roots. -/
  root : p.root = [] ∨ p.root = [char '/'] ∨ p.root = [char '/', char '/']
  /-- A name is neither empty nor the directory itself, and lies between slashes. -/
  names : ∀ n ∈ p.names, n ≠ [] ∧ n ≠ here ∧ char '/' ∉ n

/-- The names in a text. -/
def namesOf (s : Text) : List Text :=
  (Text.splitOn (char '/') s).filter fun n => !n.isEmpty && n != here

/-- The names in a text are its parts between slashes that are neither empty nor a single point. -/
theorem mem_namesOf {n s : Text} :
    n ∈ namesOf s ↔ n ∈ Text.splitOn (char '/') s ∧ n ≠ [] ∧ n ≠ here := by
  simp [namesOf]

/-- A slash in front adds no name. -/
theorem namesOf_cons_slash (s : Text) : namesOf (char '/' :: s) = namesOf s := by
  simp [namesOf, Text.splitOn_cons_self]

/-- Every text denotes a path in normal form. -/
theorem normal_parse (s : Text) : (parse s).Normal := by
  refine ⟨?_, fun n hn => ?_⟩
  · simp only [parse]
    unfold rootOf
    split <;> simp
  · obtain ⟨hmem, hne, hhere⟩ := mem_namesOf.1 hn
    exact ⟨hne, hhere, Text.sep_not_mem_of_mem_splitOn hmem⟩

/-- The slashes in front of a text that begins with none are its root. -/
theorem rootOf_append {root s : Text}
    (hroot : root = [] ∨ root = [char '/'] ∨ root = [char '/', char '/'])
    (hs : ∀ c ∈ s.head?, c ≠ char '/') : rootOf (root ++ s) = root := by
  cases s with
  | nil => rcases hroot with rfl | rfl | rfl <;> rfl
  | cons c cs =>
    have hc : c ≠ char '/' := hs c rfl
    rcases hroot with rfl | rfl | rfl <;> simp [rootOf, hc]

variable {p : Path}

/-- The names of a normal path are found again between the slashes that join them. -/
theorem Normal.namesOf_joinWith (h : p.Normal) :
    namesOf (Text.joinWith [char '/'] p.names) = p.names := by
  by_cases hnil : p.names = []
  · simp [hnil, namesOf]
  · rw [namesOf, Text.splitOn_joinWith hnil fun n hn => (h.names n hn).2.2, List.filter_eq_self]
    intro n hn
    obtain ⟨hne, hhere, -⟩ := h.names n hn
    simp [hne, hhere]

/-- Joined names begin with no slash. -/
theorem Normal.head?_joinWith (h : p.Normal) :
    ∀ c ∈ (Text.joinWith [char '/'] p.names).head?, c ≠ char '/' := by
  cases hnames : p.names with
  | nil => simp
  | cons n rest =>
    obtain ⟨hne, -, hslash⟩ := h.names n (by simp [hnames])
    obtain ⟨c, cs, rfl⟩ := List.exists_cons_of_ne_nil hne
    have hc : c ≠ char '/' := fun heq => hslash (by simp [heq])
    by_cases hrest : rest = []
    · simp [hrest, hc]
    · simp [Text.joinWith_cons_of_ne_nil _ _ hrest, hc]

/-- The text of a path is its root and then its names, unless it has neither. -/
theorem text_eq_append (h : ¬(p.root = [] ∧ p.names = [])) :
    p.text = p.root ++ Text.joinWith [char '/'] p.names := by
  rw [text, if_neg (by simpa using h)]

/-- The text of a path in normal form denotes that path. -/
theorem Normal.parse_text (h : p.Normal) : parse p.text = p := by
  by_cases hempty : p.root = [] ∧ p.names = []
  · obtain ⟨root, names⟩ := p
    obtain ⟨rfl, rfl⟩ := hempty
    rfl
  · have hroot : rootOf p.text = p.root :=
      text_eq_append hempty ▸ rootOf_append h.root h.head?_joinWith
    have hnames : namesOf p.text = p.names := by
      rw [text_eq_append hempty]
      rcases h.root with hr | hr | hr <;> rw [hr] <;>
        simpa only [List.nil_append, List.cons_append, namesOf_cons_slash] using h.namesOf_joinWith
    exact congrArg₂ Path.mk hroot hnames

/-- The text of a path consists of characters of the text that denotes it, slashes and points. -/
theorem mem_text_parse {s : Text} {c : CodePoint} (h : c ∈ (parse s).text) :
    c ∈ s ∨ c = char '/' ∨ c = char '.' := by
  by_cases hempty : (parse s).root = [] ∧ (parse s).names = []
  · rw [text, if_pos (by simpa using hempty)] at h
    exact .inr (.inr (List.mem_singleton.1 h))
  · rw [text_eq_append hempty, List.mem_append] at h
    rcases h with h | h
    · rcases (normal_parse s).root with hr | hr | hr <;> rw [hr] at h
      · exact absurd h List.not_mem_nil
      · exact .inr (.inl (List.mem_singleton.1 h))
      · exact .inr (.inl (by simpa using h))
    · rcases Text.mem_joinWith h with h | ⟨n, hn, h⟩
      · exact .inr (.inl (List.mem_singleton.1 h))
      · exact .inl (Text.mem_of_mem_splitOn (mem_namesOf.1 hn).1 h)

/-- No path has an empty text. -/
theorem Normal.text_ne_nil (h : p.Normal) : p.text ≠ [] := by
  intro hnil
  have hempty := h.parse_text
  rw [hnil] at hempty
  exact absurd (hempty ▸ hnil : (parse []).text = []) (by decide)

end Path

namespace Settings

/-- Blanks around a text do not matter to the path that it names. -/
theorem pathOfText_strip (s : Text) : pathOfText (Text.strip s) = pathOfText s := by
  simp only [pathOfText, Text.strip_strip]

/-- A text of blanks alone names no path. -/
theorem pathOfText_of_forall_isBlank {s : Text} (h : ∀ c ∈ s, Text.isBlank c = true) :
    pathOfText s = .error .blankPath := by
  simp [pathOfText, Text.strip, Text.trimBy_of_forall h]

/-- A text without blanks names the path that it denotes. -/
theorem pathOfText_of_forall_not_isBlank {s : Text} (hne : s ≠ [])
    (h : ∀ c ∈ s, Text.isBlank c = false) : pathOfText s = .ok (Path.parse s) := by
  simp [pathOfText, Text.strip, Text.trimBy_of_forall_not h, hne]

/-- A text of blanks alone denotes a path of one name, which is this text. -/
theorem text_parse_of_forall_isBlank {s : Text} (hne : s ≠ [])
    (h : ∀ c ∈ s, Text.isBlank c = true) : (Path.parse s).text = s := by
  have hslash : char '/' ∉ s := fun hmem => absurd (h _ hmem) (by decide)
  have hhere : s ≠ Path.here := fun heq =>
    absurd (h (char '.') (by simp [heq, Path.here])) (by decide)
  have hroot : Path.rootOf ([] ++ s) = [] :=
    Path.rootOf_append (.inl rfl) fun c hc heq => hslash (heq ▸ List.mem_of_mem_head? hc)
  have hnames : Path.namesOf s = [s] := by
    simp [Path.namesOf, Text.splitOn_eq_singleton hslash, hne, hhere]
  have hparse : Path.parse s = ⟨[], [s]⟩ := congrArg₂ Path.mk hroot hnames
  simp [hparse, Path.text]

end Settings

end WorkloadTrace
