import WorkloadTrace.Proofs.Clauses
import WorkloadTrace.Proofs.Escaping

/-!
# Reading lines back

A reader that knows nothing of how lines are made: it looks for the verb, goes through the quoted
arguments one character at a time, and takes what is left before the line feed for the clause. A
quote without a backslash ends an argument, and what comes after it says whether another one
follows. The reader accepts exactly the lines that are written, and gives back what they say, so no
text of an argument is taken for a part of the line.
-/

namespace WorkloadTrace

/-- A verb is denoted by its own word only. -/
theorem Verb.parse?_eq_some_iff {word : Text} {v : Verb} :
    parse? word = some v ↔ word = v.word := by
  constructor
  · intro h
    have hfound := List.find?_some h
    exact (of_decide_eq_true hfound).symm
  · rintro rfl
    exact parse?_word v

namespace QueryLine

/-- What stands in a line from a place inside a quoted argument on. -/
structure Inside where
  /-- The text that is left of the argument. -/
  current : Text
  /-- The texts of the arguments after it. -/
  further : List Text
  /-- What follows the parentheses that end the arguments. -/
  rest : Text
deriving DecidableEq, Repr

namespace Inside

/-- With a text in front of what is left of the argument. -/
def after (s : Text) (i : Inside) : Inside := { i with current := s ++ i.current }

/-- With an argument that ends where this one begins. -/
def next (i : Inside) : Inside := ⟨[], i.current :: i.further, i.rest⟩

/-- How it is written. -/
def written (i : Inside) : Text :=
  Text.escape i.current ++ char '\x22' ::
    (i.further.flatMap fun a => char ',' :: quoteArg a) ++ char ')' :: char ')' :: i.rest

theorem written_after (s : Text) (i : Inside) :
    (i.after s).written = Text.escape s ++ i.written := by
  simp [written, after]

theorem written_next (i : Inside) :
    i.next.written = char '\x22' :: char ',' :: char '\x22' :: i.written := by
  simp [written, next, quoteArg]

end Inside

/-- Reads from a place inside a quoted argument on. A backslash form is a character of the
argument; a quote ends it, before a comma and the next argument or before the parentheses. -/
def readInside? : Text → Option Inside
  | char '\x22' :: char ',' :: char '\x22' :: rest => (readInside? rest).map Inside.next
  | char '\x22' :: char ')' :: char ')' :: rest => some ⟨[], [], rest⟩
  | char '\\' :: c :: rest =>
    (Text.unescapeChar? c).bind fun d => (readInside? rest).map (Inside.after [d])
  | c :: rest => if Text.isPlain c then (readInside? rest).map (Inside.after [c]) else none
  | [] => none

/-- Reads the arguments and the parentheses that end them: the texts of the arguments, and what
follows. -/
def readArgs? : Text → Option (List Text × Text)
  | char ')' :: char ')' :: rest => some ([], rest)
  | char '\x22' :: inside => (readInside? inside).map fun i => (i.current :: i.further, i.rest)
  | _ => none

/-- Reads what follows a call: a line feed at the end, and before it nothing or a separator with a
clause that is not empty. -/
def readClause? (s : Text) : Option Text :=
  if s.getLast? = some (char '\n') then
    match s.dropLast with
    | [] => some []
    | c :: clause => if c = Predicate.separator ∧ clause ≠ [] then some clause else none
  else none

/-- Reads a line. -/
def read? (line : Text) : Option QueryLine := do
  let call ← Text.dropHead? "query(".toText line
  let (word, body) ← Text.cutAt? (char '(') call
  let verb ← Verb.parse? word
  let (args, rest) ← readArgs? body
  let clause ← readClause? rest
  return ⟨verb, args, clause⟩

private theorem readInside?_plain {c : CodePoint} (h : Text.isPlain c = true) (t : Text) :
    readInside? (c :: t) = (readInside? t).map (Inside.after [c]) := by
  obtain ⟨hback, hquote, -, -⟩ := Text.isPlain_iff.1 h
  rw [readInside?.eq_def]
  split <;> simp_all

/-- The reader takes one escaped character at a time. -/
theorem readInside?_escapeChar_append (c : CodePoint) (t : Text) :
    readInside? (Text.escapeChar c ++ t) = (readInside? t).map (Inside.after [c]) := by
  cases h : Text.isPlain c with
  | true =>
    rw [Text.escapeChar_eq_self h]
    exact readInside?_plain h t
  | false =>
    obtain ⟨e, he, hc⟩ := Text.escapeChar_eq_form h
    rw [he]
    simp [readInside?, hc]

/-- No escaped text ends the argument that it stands in. -/
theorem readInside?_escape_append (s t : Text) :
    readInside? (Text.escape s ++ t) = (readInside? t).map (Inside.after s) := by
  induction s with
  | nil =>
    rw [Text.escape_nil, List.nil_append]
    cases readInside? t <;> rfl
  | cons c s ih =>
    rw [Text.escape_cons, List.append_assoc, readInside?_escapeChar_append, ih, Option.map_map]
    rfl

/-- Reading from inside an argument gives back what is written there. -/
theorem readInside?_written (i : Inside) : readInside? i.written = some i := by
  obtain ⟨current, further, rest⟩ := i
  induction further generalizing current with
  | nil =>
    rw [Inside.written, List.append_assoc, readInside?_escape_append]
    simp [readInside?, Inside.after]
  | cons a further ih =>
    have hwritten : Inside.written ⟨current, a :: further, rest⟩ =
        Text.escape current ++ (Inside.next ⟨a, further, rest⟩).written := by
      simp [Inside.written, Inside.next, quoteArg]
    rw [hwritten, readInside?_escape_append, Inside.written_next, readInside?, ih a]
    simp [Inside.after, Inside.next]

/-- The reader accepts nothing but what is written so. -/
theorem eq_written_of_readInside? {t : Text} {i : Inside} (h : readInside? t = some i) :
    t = i.written := by
  fun_induction readInside? t generalizing i with
  | case1 rest ih =>
    obtain ⟨j, hj, rfl⟩ := Option.map_eq_some_iff.1 h
    rw [Inside.written_next, ← ih hj]
  | case2 rest =>
    obtain rfl := Option.some.inj h
    rfl
  | case3 c rest ih =>
    obtain ⟨d, hd, hrest⟩ := Option.bind_eq_some_iff.1 h
    obtain ⟨j, hj, rfl⟩ := Option.map_eq_some_iff.1 hrest
    have hform : [char '\\', c] = Text.escape [d] :=
      Text.eq_escape_of_unescape? (by simp [Text.unescape?, hd])
    rw [Inside.written_after, ← hform, ← ih hj]
    rfl
  | case4 c rest _ _ _ hc ih =>
    obtain ⟨j, hj, rfl⟩ := Option.map_eq_some_iff.1 h
    have hself : Text.escape [c] = [c] :=
      Text.escape_eq_self fun d hd => List.mem_singleton.1 hd ▸ hc
    rw [Inside.written_after, hself, ← ih hj]
    rfl
  | case5 => exact absurd h (by simp)
  | case6 => exact absurd h (by simp)

theorem readInside?_eq_some_iff {t : Text} {i : Inside} :
    readInside? t = some i ↔ t = i.written :=
  ⟨eq_written_of_readInside?, fun h => h ▸ readInside?_written i⟩

/-- Arguments with commas between them, the first one in front. -/
theorem joinWith_quoteArg_cons (a : Text) (further : List Text) :
    Text.joinWith [char ','] ((a :: further).map quoteArg) =
      quoteArg a ++ further.flatMap fun b => char ',' :: quoteArg b := by
  induction further generalizing a with
  | nil => simp
  | cons b further ih =>
    rw [List.map_cons, Text.joinWith_cons_of_ne_nil _ _ (by simp), ih b]
    simp

/-- What is read as arguments is what is written for them. -/
theorem readArgs?_eq_some_iff {body : Text} {args : List Text} {rest : Text} :
    readArgs? body = some (args, rest) ↔
      body = Text.joinWith [char ','] (args.map quoteArg) ++ char ')' :: char ')' :: rest := by
  constructor
  · intro h
    rw [readArgs?.eq_def] at h
    split at h
    · obtain ⟨rfl, rfl⟩ := Prod.mk.inj (Option.some.inj h)
      rfl
    · rename_i inside
      obtain ⟨i, hi, he⟩ := Option.map_eq_some_iff.1 h
      obtain ⟨rfl, rfl⟩ := Prod.mk.inj he
      rw [joinWith_quoteArg_cons, readInside?_eq_some_iff.1 hi]
      simp [Inside.written, quoteArg]
    · exact absurd h (by simp)
  · rintro rfl
    cases args with
    | nil => rfl
    | cons a further =>
      have hwritten : Text.joinWith [char ','] ((a :: further).map quoteArg) ++
          char ')' :: char ')' :: rest =
          char '\x22' :: Inside.written ⟨a, further, rest⟩ := by
        rw [joinWith_quoteArg_cons]
        simp [Inside.written, quoteArg]
      rw [hwritten, readArgs?, readInside?_written, Option.map_some]

/-- What is read after a call is what is written for a clause. -/
theorem readClause?_eq_some_iff {s clause : Text} :
    readClause? s = some clause ↔
      s = (if clause.isEmpty then [] else Predicate.separator :: clause) ++ [char '\n'] := by
  constructor
  · intro h
    rw [readClause?] at h
    split at h
    · rename_i hlast
      obtain ⟨body, rfl⟩ := List.getLast?_eq_some_iff.1 hlast
      rw [List.dropLast_concat] at h
      split at h
      · obtain rfl := Option.some.inj h
        rfl
      · split at h
        · rename_i hclause
          obtain rfl := Option.some.inj h
          rw [hclause.1, if_neg (by simpa using hclause.2)]
        · exact absurd h (by simp)
    · exact absurd h (by simp)
  · rintro rfl
    rw [readClause?, if_pos List.getLast?_concat, List.dropLast_concat]
    cases clause <;> simp

/-- A line in the order in which it is read. -/
theorem render_eq (q : QueryLine) :
    q.render = "query(".toText ++ (q.verb.word ++
      char '(' :: (Text.joinWith [char ','] (q.args.map quoteArg) ++ char ')' :: char ')' ::
        ((if q.clause.isEmpty then [] else Predicate.separator :: q.clause) ++ [char '\n']))) := by
  have hassoc (opening args closing clause : Text) :
      opening ++ q.verb.word ++ char '(' :: args ++ closing ++ clause ++ [char '\n'] =
        opening ++ (q.verb.word ++ char '(' :: (args ++ (closing ++ (clause ++ [char '\n'])))) := by
    simp only [List.append_assoc, List.cons_append]
  exact hassoc _ _ [char ')', char ')'] _

/-- Reading accepts exactly the lines that are written, and gives back what they say. -/
theorem read?_eq_some_iff {line : Text} {q : QueryLine} :
    read? line = some q ↔ line = q.render := by
  have hparen (v : Verb) : char '(' ∉ v.word := by cases v <;> decide
  constructor
  · intro h
    simp only [read?, bind, Option.bind_eq_some_iff, Prod.exists] at h
    obtain ⟨call, hcall, word, body, hcut, verb, hword, args, rest, hargs, clause, hclause, h⟩ := h
    obtain rfl := Option.some.inj h
    rw [render_eq, Text.dropHead?_eq_some_iff.1 hcall, (Text.cutAt?_eq_some_iff.1 hcut).2,
      Verb.parse?_eq_some_iff.1 hword, readArgs?_eq_some_iff.1 hargs,
      readClause?_eq_some_iff.1 hclause]
  · rintro rfl
    have hcall := Text.dropHead?_eq_some_iff.2 (render_eq q)
    simp only [read?, bind, hcall, Option.bind_some, Text.cutAt?_eq_some_iff.2 ⟨hparen q.verb, rfl⟩,
      Verb.parse?_word, readArgs?_eq_some_iff.2 rfl, readClause?_eq_some_iff.2 rfl]
    rfl

/-- Every line is read in one way: the reader gives back the verb, the texts of the arguments and
the clause of what was written, and accepts nothing else. Escaped text never ends the argument that
it stands in, so two lines are the same only if they say the same. -/
theorem lines_uniquely_readable :
    (∀ verb args clause, read? (ofValues verb args clause).render =
      some ⟨verb, args.map Value.traceText, clause⟩) ∧
    (∀ line q, read? line = some q ↔ line = q.render) ∧
    (∀ s, Text.unescape? (Text.escape s) = some s) ∧
    (∀ s rest, readInside? (Text.escape s ++ rest) = (readInside? rest).map (Inside.after s)) ∧
    (∀ verb args clause verb' args' clause',
      (ofValues verb args clause).render = (ofValues verb' args' clause').render ↔
        verb = verb' ∧ args.map Value.traceText = args'.map Value.traceText ∧
          clause = clause') := by
  have hread (verb : Verb) (args : List Value) (clause : Text) :
      read? (ofValues verb args clause).render = some ⟨verb, args.map Value.traceText, clause⟩ :=
    read?_eq_some_iff.2 rfl
  refine ⟨hread, fun line q => read?_eq_some_iff, Text.unescape?_escape,
    readInside?_escape_append, ?_⟩
  intro verb args clause verb' args' clause'
  constructor
  · intro h
    have hsame := (hread verb args clause).symm.trans (h ▸ hread verb' args' clause')
    simpa using hsame
  · rintro ⟨rfl, hargs, rfl⟩
    rw [ofValues, ofValues, hargs]

/-- No argument, an empty one, one that looks like two, and a quote that nothing escapes. -/
example :
    read? "query(getLogs())\n".toText = some ⟨.getLogs, [], []⟩ ∧
    read? "query(GET(\"\"))\n".toText = some ⟨.get, [[]], []⟩ ∧
    read? "query(GET(\"a\\\",\\\"b\"))&p\n".toText =
      some ⟨.get, ["a\",\"b".toText], [char 'p']⟩ ∧
    read? "query(GET(\"a\"b\"))\n".toText = none := by
  decide +kernel

end QueryLine

end WorkloadTrace
