import WorkloadTrace.FileTree
import WorkloadTrace.Proofs.Clauses

/-!
# Opening a file for appending

What an opening that succeeds leaves behind. Making the directories of a path adds directories to a
tree and touches no file, so the file holds afterwards what stood at its place before, or nothing if
it is new. From then on the path leads to the file whatever is appended to it: opening it again
succeeds and changes nothing.
-/

namespace WorkloadTrace

/-- The text of the directory above is a single point or a beginning of the text of the path. -/
theorem Path.text_parent (p : Path) : p.parent.text = here ∨ p.parent.text <+: p.text := by
  obtain ⟨root, names⟩ := p
  rcases List.eq_nil_or_concat names with rfl | ⟨outer, name, rfl⟩
  · exact .inr (List.prefix_refl _)
  · rw [List.concat_eq_append, parent, List.dropLast_concat]
    cases outer with
    | nil => cases root <;> simp [text]
    | cons first rest =>
      have happend := Text.joinWith_append [char '/'] (List.cons_ne_nil first rest)
        (List.cons_ne_nil name [])
      refine .inr ⟨[char '/'] ++ name, ?_⟩
      simp only [text, List.isEmpty_cons, Bool.and_false, Bool.false_eq_true, if_false,
        List.cons_append] at happend ⊢
      simp [happend]

/-- The system accepts the text of a path exactly when each code point can stand in a name. -/
theorem Path.trouble?_eq_none_iff {s : Text} :
    trouble? s = none ↔ (∀ c ∈ s, Text.fitsName c = true) ∧ nul ∉ s := by
  rw [trouble?, Option.or_eq_none_iff, Text.encodeTrouble?_eq_none_iff]
  simp

/-- A path that the system accepts lies in a directory that it accepts. -/
theorem Path.trouble?_parent {p : Path} (h : trouble? p.text = none) :
    trouble? p.parent.text = none := by
  rw [trouble?_eq_none_iff] at h ⊢
  rcases p.text_parent with hhere | hhead
  · rw [hhere]
    decide
  · exact ⟨fun c hc => h.1 c (hhead.subset hc), fun hmem => h.2 (hhead.subset hmem)⟩

namespace FileTree

/-- A node is found where it was put. -/
theorem node?_put_self {place : Location} (h : place ≠ []) (node : Node) (t : FileTree) :
    (t.put place node).node? place = some node := by
  simp [node?, put, h]

/-- Elsewhere there is what was there. -/
theorem node?_put_of_ne {place other : Location} (h : other ≠ place) (node : Node)
    (t : FileTree) : (t.put place node).node? other = t.node? other := by
  have hne : (other == place) = false := beq_false_of_ne h
  have hlookup (nodes : List (Location × Node)) :
      (nodes.filter fun e => e.1 != place).lookup other = nodes.lookup other := by
    induction nodes with
    | nil => rfl
    | cons e rest ih =>
      obtain ⟨p, n⟩ := e
      by_cases hplace : p = place <;> simp [List.lookup_cons, hplace, hne, ih]
  simp only [node?, put, List.lookup_cons, hlookup, hne]

/-- The bytes of the file at a place; none if there is no file. -/
def contentAt (t : FileTree) (place : Location) : List UInt8 :=
  match t.node? place with
  | some (.file bs) => bs
  | _ => []

/-- A tree in which the directories of another are directories, too. -/
structure KeepsDirectories (t t' : FileTree) : Prop where
  /-- The current directory is the same. -/
  current_eq : t'.current = t.current
  /-- Directories stay. -/
  directory : ∀ p, t.node? p = some .directory → t'.node? p = some .directory

/-- A tree with more directories: nothing else was added, and nothing was taken away. -/
structure Furthers (t t' : FileTree) : Prop extends KeepsDirectories t t' where
  /-- The files are the same, with the same content. -/
  file_iff : ∀ p bs, t'.node? p = some (.file bs) ↔ t.node? p = some (.file bs)

namespace Furthers

/-- Every tree goes as far as itself. -/
theorem refl (t : FileTree) : Furthers t t := ⟨⟨rfl, fun _ h => h⟩, fun _ _ => Iff.rfl⟩

/-- Going further can be done in steps. -/
theorem trans {t u v : FileTree} (h : Furthers t u) (h' : Furthers u v) : Furthers t v :=
  ⟨⟨h'.current_eq.trans h.current_eq, fun p hp => h'.directory p (h.directory p hp)⟩,
    fun p bs => (h'.file_iff p bs).trans (h.file_iff p bs)⟩

/-- Where files go further, what they hold is the same. -/
theorem contentAt_eq {t t' : FileTree} (h : Furthers t t') (place : Location) :
    t'.contentAt place = t.contentAt place := by
  have hiff := h.file_iff place
  simp only [contentAt]
  cases hnode : t.node? place with
  | some node =>
    cases node with
    | file bs => simp [(hiff bs).2 hnode]
    | directory => simp [h.directory place hnode]
  | none =>
    cases hnode' : t'.node? place with
    | none => rfl
    | some node =>
      cases node with
      | directory => rfl
      | file bs => simp [(hiff bs).1 hnode'] at hnode

end Furthers

/-- Something at a place that was no directory leaves the directories what they are. -/
theorem keepsDirectories_put {t : FileTree} {place : Location}
    (h : t.node? place ≠ some .directory) (node : Node) :
    KeepsDirectories t (t.put place node) := by
  refine ⟨rfl, fun p hp => ?_⟩
  have hne : p ≠ place := fun heq => h (heq ▸ hp)
  rwa [node?_put_of_ne hne]

/-- The top is a directory. -/
theorem ne_nil_of_node? {t : FileTree} {place : Location}
    (h : t.node? place ≠ some .directory) : place ≠ [] := by
  rintro rfl
  exact h rfl

/-- A new directory at a free place adds to the tree. -/
theorem furthers_put_directory {t : FileTree} {place : Location} (h : t.node? place = none) :
    Furthers t (t.put place .directory) := by
  have hfree : t.node? place ≠ some .directory := by simp [h]
  refine ⟨keepsDirectories_put hfree _, fun p bs => ?_⟩
  by_cases heq : p = place
  · simp [heq, node?_put_self (ne_nil_of_node? hfree), h]
  · rw [node?_put_of_ne heq]

namespace KeepsDirectories

variable {t t' : FileTree}

/-- Names that lead to a place still do when directories stay what they are. -/
theorem follow_eq_ok (h : KeepsDirectories t t') {names : List Text} {p q : Location}
    (hfollow : t.follow p names = .ok q) : t'.follow p names = .ok q := by
  induction names generalizing p with
  | nil => exact hfollow
  | cons name rest ih =>
    cases hnode : t.node? p with
    | none => simp [follow, enter, hnode, bind, Except.bind] at hfollow
    | some node =>
      cases node with
      | file bs => simp [follow, enter, hnode, bind, Except.bind] at hfollow
      | directory =>
        have henter : t'.enter p name = t.enter p name := by
          simp only [enter, hnode, h.directory p hnode]
        simp only [follow, henter] at hfollow ⊢
        cases hnext : t.enter p name with
        | error e => simp [hnext, bind, Except.bind] at hfollow
        | ok next =>
          rw [hnext] at hfollow
          exact ih hfollow

/-- A path leads to its place as long as the directories stay. -/
theorem locate_eq_ok (h : KeepsDirectories t t') {path : Path} {place : Location}
    (hlocate : t.locate path = .ok place) : t'.locate path = .ok place := by
  have horigin : t'.origin path = t.origin path := by simp only [origin, h.current_eq]
  simp only [locate] at hlocate ⊢
  split
  · simp [*] at hlocate
  · rw [horigin]
    exact h.follow_eq_ok (by simpa [*] using hlocate)

end KeepsDirectories

/-- A path is that of a directory when there is one at the place it leads to. -/
theorem isDirectory_iff {t : FileTree} {path : Path} :
    t.isDirectory path = true ↔
      ∃ place, t.locate path = .ok place ∧ t.node? place = some .directory := by
  simp only [isDirectory, stat, bind, Except.bind]
  cases t.locate path with
  | error e => simp
  | ok place =>
    simp only [Except.ok.injEq, exists_eq_left']
    cases t.node? place with
    | none => simp [throw, throwThe, MonadExceptOf.throw]
    | some node => cases node <;> simp [pure, Except.pure]

/-- A directory is one as long as the directories stay. -/
theorem KeepsDirectories.isDirectory {t t' : FileTree} (h : KeepsDirectories t t') {path : Path}
    (hpath : t.isDirectory path = true) : t'.isDirectory path = true := by
  obtain ⟨place, hlocate, hnode⟩ := isDirectory_iff.1 hpath
  exact isDirectory_iff.2 ⟨place, h.locate_eq_ok hlocate, h.directory place hnode⟩

/-- A directory is made at the free place that its path leads to. -/
theorem makeDirectory_eq_ok {t t' : FileTree} {path : Path} (h : t.makeDirectory path = .ok t') :
    ∃ place, t.locate path = .ok place ∧ t.node? place = none ∧ t' = t.put place .directory := by
  simp only [makeDirectory, bind, Except.bind] at h
  cases hlocate : t.locate path with
  | error e => simp [hlocate] at h
  | ok place =>
    cases hnode : t.node? place with
    | some node => simp [hlocate, hnode, throw, throwThe, MonadExceptOf.throw] at h
    | none =>
      simp only [hlocate, hnode, pure, Except.pure, Except.ok.injEq] at h
      exact ⟨place, rfl, hnode, h.symm⟩

/-- Making a directory takes nothing away. -/
theorem furthers_ensureDirectory (t : FileTree) (path : Path) :
    Furthers t (t.ensureDirectory path).1 := by
  simp only [ensureDirectory]
  cases h : t.makeDirectory path with
  | error e => exact .refl t
  | ok t' =>
    obtain ⟨place, -, hfree, rfl⟩ := makeDirectory_eq_ok h
    exact furthers_put_directory hfree

/-- Where a directory was ensured there is one. -/
theorem isDirectory_of_ensureDirectory {t t' : FileTree} {path : Path}
    (h : t.ensureDirectory path = (t', none)) : t'.isDirectory path = true := by
  simp only [ensureDirectory] at h
  cases hmake : t.makeDirectory path with
  | error e =>
    simp only [hmake, Prod.mk.injEq, ite_eq_left_iff, reduceCtorEq, imp_false] at h
    obtain ⟨rfl, hdirectory⟩ := h
    simpa using hdirectory
  | ok made =>
    simp only [hmake, Prod.mk.injEq, and_true] at h
    subst h
    obtain ⟨place, hlocate, hfree, rfl⟩ := makeDirectory_eq_ok hmake
    have hnode : t.node? place ≠ some .directory := by simp [hfree]
    exact isDirectory_iff.2 ⟨place, (keepsDirectories_put hnode _).locate_eq_ok hlocate,
      node?_put_self (ne_nil_of_node? hnode) _ t⟩

/-- The directories above are ensured only when a directory cannot be made without them. -/
theorem ensureDirectories_cons (root name : Text) (outer : List Text) (t : FileTree) :
    let path : Path := ⟨root, (name :: outer).reverse⟩
    ensureDirectories root (name :: outer) t = t.ensureDirectory path ∨
      t.makeDirectory path = .error .notFound ∧
        ensureDirectories root (name :: outer) t =
          match ensureDirectories root outer t with
          | (u, none) => u.ensureDirectory path
          | (u, some e) => (u, some e) := by
  intro path
  rw [ensureDirectories]
  split
  · exact .inr ⟨by assumption, rfl⟩
  · exact .inl rfl

/-- Nor does making those around it. -/
theorem furthers_ensureDirectories (root : Text) (names : List Text) (t : FileTree) :
    Furthers t (ensureDirectories root names t).1 := by
  induction names with
  | nil => exact furthers_ensureDirectory t ⟨root, []⟩
  | cons name outer ih =>
    rcases ensureDirectories_cons root name outer t with hstep | ⟨-, hstep⟩
    · rw [hstep]
      exact furthers_ensureDirectory t _
    · rw [hstep]
      cases houter : ensureDirectories root outer t with
      | mk u error =>
        rw [houter] at ih
        cases error with
        | none => exact ih.trans (furthers_ensureDirectory u _)
        | some e => exact ih

/-- Where the directories of a path were ensured the path is a directory. -/
theorem isDirectory_of_ensureDirectories {root : Text} {names : List Text} {t t' : FileTree}
    (h : ensureDirectories root names t = (t', none)) :
    t'.isDirectory ⟨root, names.reverse⟩ = true := by
  cases names with
  | nil => exact isDirectory_of_ensureDirectory h
  | cons name outer =>
    rcases ensureDirectories_cons root name outer t with hstep | ⟨-, hstep⟩
    · exact isDirectory_of_ensureDirectory (hstep.symm.trans h)
    · rw [hstep] at h
      cases houter : ensureDirectories root outer t with
      | mk u error =>
        cases error with
        | none => exact isDirectory_of_ensureDirectory (by simpa [houter] using h)
        | some e => simp [houter] at h

/-- A directory that is there is not made again. -/
theorem makeDirectory_of_isDirectory {t : FileTree} {path : Path}
    (h : t.isDirectory path = true) : t.makeDirectory path = .error .exists := by
  obtain ⟨place, hlocate, hnode⟩ := isDirectory_iff.1 h
  simp [makeDirectory, hlocate, hnode, bind, Except.bind, throw, throwThe, MonadExceptOf.throw]

/-- Ensuring a directory that is there changes nothing. -/
theorem ensureDirectories_of_isDirectory {root : Text} {names : List Text} {t : FileTree}
    (h : t.isDirectory ⟨root, names.reverse⟩ = true) :
    ensureDirectories root names t = (t, none) := by
  have hmake := makeDirectory_of_isDirectory h
  have hensure : t.ensureDirectory ⟨root, names.reverse⟩ = (t, none) := by
    simp only [ensureDirectory, hmake, h, if_true]
  cases names with
  | nil => exact hensure
  | cons name outer =>
    rcases ensureDirectories_cons root name outer t with hstep | ⟨hmissing, -⟩
    · exact hstep.trans hensure
    · exact absurd (hmake.symm.trans hmissing) (by simp)

/-- A path leads to a file with some content, and opening it leaves the tree as it is. -/
structure Holds (t : FileTree) (path : Path) (place : Location) (content : List UInt8) : Prop where
  /-- The system accepts the directory of the path. -/
  parent_fit : Path.trouble? path.parent.text = none
  /-- The system accepts the path. -/
  fit : Path.trouble? path.text = none
  /-- The directory of the path is there. -/
  inside : t.isDirectory path.parent = true
  /-- The path leads to the place. -/
  leads : t.locate path = .ok place
  /-- The file stands at the place. -/
  node_eq : t.node? place = some (.file content)

variable {t : FileTree} {path : Path} {place : Location} {content : List UInt8}

/-- What a path leads to is what its place holds. -/
theorem Holds.content?_eq (h : Holds t path place content) : t.content? path = some content := by
  simp [content?, stat, h.fit, h.leads, h.node_eq, bind, Except.bind, pure, Except.pure]

/-- What a place holds is its content. -/
theorem Holds.contentAt_eq (h : Holds t path place content) : t.contentAt place = content := by
  simp [contentAt, h.node_eq]

/-- A file that is there is opened again as it is. -/
theorem Holds.openAppend_eq (h : Holds t path place content) :
    openAppend path t = (.opened (.file place []), t) := by
  have hinside := h.inside
  rw [show path.parent = ⟨path.root, path.parent.names.reverse.reverse⟩ by
    rw [List.reverse_reverse]; rfl] at hinside
  simp [openAppend, h.parent_fit, h.fit, ensureDirectories_of_isDirectory hinside, openFile,
    h.leads, h.node_eq, bind, Except.bind, pure, Except.pure]

/-- What is appended follows what the file held, and the path leads to the file as before. -/
theorem Holds.appendAt (h : Holds t path place content) (bs : List UInt8) :
    Holds (t.appendAt place bs) path place (content ++ bs) := by
  have hnode : t.node? place ≠ some .directory := by simp [h.node_eq]
  have hkeeps := keepsDirectories_put hnode (.file (content ++ bs))
  simp only [FileTree.appendAt, h.node_eq]
  exact ⟨h.parent_fit, h.fit, hkeeps.isDirectory h.inside, hkeeps.locate_eq_ok h.leads,
    node?_put_self (ne_nil_of_node? hnode) _ t⟩

/-- An opened file is the one at the place that its path leads to, empty if it is new. -/
theorem openFile_eq_ok {t' : FileTree} (h : t.openFile path = .ok (t', place)) :
    t.locate path = .ok place ∧ KeepsDirectories t t' ∧
      t'.node? place = some (.file (t.contentAt place)) := by
  simp only [openFile, bind, Except.bind] at h
  cases hlocate : t.locate path with
  | error e => simp [hlocate] at h
  | ok found =>
    cases hnode : t.node? found with
    | none =>
      simp only [hlocate, hnode, pure, Except.pure, Except.ok.injEq, Prod.mk.injEq] at h
      obtain ⟨rfl, rfl⟩ := h
      have hfree : t.node? found ≠ some .directory := by simp [hnode]
      exact ⟨rfl, keepsDirectories_put hfree _, by
        simp [contentAt, hnode, node?_put_self (ne_nil_of_node? hfree)]⟩
    | some node =>
      cases node with
      | directory => simp [hlocate, hnode, throw, throwThe, MonadExceptOf.throw] at h
      | file bs =>
        simp only [hlocate, hnode, pure, Except.pure, Except.ok.injEq, Prod.mk.injEq] at h
        obtain ⟨rfl, rfl⟩ := h
        exact ⟨rfl, ⟨rfl, fun _ hp => hp⟩, by simp [contentAt, hnode]⟩

/-- An opening that succeeds leaves a file with the content that stood at its place before. -/
theorem holds_of_openAppend {handle : Handle} {t' : FileTree}
    (h : openAppend path t = (.opened handle, t')) :
    ∃ place, handle = .file place [] ∧ Holds t' path place (t.contentAt place) ∧
      ∀ place', t.locate path = .ok place' → place' = place := by
  simp only [openAppend] at h
  cases hparent : Path.trouble? path.parent.text with
  | some t => simp [hparent] at h
  | none =>
    cases hensure : ensureDirectories path.root path.parent.names.reverse t with
    | mk u error =>
      have hfurthers := furthers_ensureDirectories path.root path.parent.names.reverse t
      rw [hensure] at hfurthers
      cases error with
      | some e => simp [hparent, hensure] at h
      | none =>
        have hinside := isDirectory_of_ensureDirectories hensure
        rw [List.reverse_reverse] at hinside
        cases hpath : Path.trouble? path.text with
        | some t => simp [hparent, hensure, hpath] at h
        | none =>
          cases hopen : u.openFile path with
          | error e => simp [hparent, hensure, hpath, hopen] at h
          | ok opened =>
            simp only [hparent, hensure, hpath, hopen, Prod.mk.injEq, Opening.opened.injEq] at h
            obtain ⟨rfl, rfl⟩ := h
            obtain ⟨hleads, hkeeps, hnode⟩ := openFile_eq_ok hopen
            refine ⟨opened.2, rfl, ⟨hparent, hpath, hkeeps.isDirectory hinside,
              hkeeps.locate_eq_ok hleads, ?_⟩, fun place' hplace' => ?_⟩
            · rw [hnode, hfurthers.contentAt_eq]
            · have hsame := hfurthers.locate_eq_ok hplace'
              exact Except.ok.inj (hsame.symm.trans hleads)

/-- Opening a path raises nothing but what keeps the system from accepting it. -/
theorem openAppend_ne_raised (h : Path.trouble? path.text = none) (t : FileTree) (u : Trouble) :
    (openAppend path t).1 ≠ .raised u := by
  simp only [openAppend, Path.trouble?_parent h, h]
  cases ensureDirectories path.root path.parent.names.reverse t with
  | mk v error =>
    cases error with
    | some e => simp
    | none =>
      simp only
      cases v.openFile path <;> simp

end FileTree

end WorkloadTrace
