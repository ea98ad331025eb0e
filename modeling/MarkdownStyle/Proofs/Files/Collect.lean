/-
Collected paths lead to files. In a tree whose directories have every name once, and no name that leads
elsewhere, a path that leads somewhere stands for files only, and so does every path that is collected.
-/
import MarkdownStyle.Files.Collect
import MarkdownStyle.Proofs.Files.Tree

namespace MarkdownStyle

/-! ## Proper trees -/

/-- A name that an entry can have: it leads to the entry, and nowhere else. -/
def Path.IsName (name : String) : Prop := name ≠ "" ∧ name ≠ Path.here ∧ name ≠ Path.above

instance (name : String) : Decidable (Path.IsName name) :=
  inferInstanceAs (Decidable (name ≠ "" ∧ name ≠ Path.here ∧ name ≠ Path.above))

namespace Entry

mutual

/-- Whether all directories in an entry have names of their own for what they hold. -/
def isProper : Entry → Bool
  | file _ => true
  | directory entries => decide (entries.map Prod.fst).Nodup && areProper entries

def areProper : List (String × Entry) → Bool
  | [] => true
  | (name, e) :: rest => decide (Path.IsName name) && e.isProper && areProper rest

end

theorem areProper_iff {entries : List (String × Entry)} :
    areProper entries = true ↔ ∀ entry ∈ entries, Path.IsName entry.1 ∧ entry.2.isProper = true := by
  induction entries with
  | nil => simp [areProper]
  | cons entry rest ih => simp [areProper, ih]

theorem isProper_directory {entries : List (String × Entry)} :
    (directory entries).isProper = true ↔
      (entries.map Prod.fst).Nodup ∧ ∀ entry ∈ entries, Path.IsName entry.1 ∧ entry.2.isProper = true := by
  rw [isProper, Bool.and_eq_true, decide_eq_true_eq, areProper_iff]

theorem isProper_at? {e : Entry} (h : e.isProper = true) {names : List String} {found : Entry}
    (hat : e.at? names = some found) : found.isProper = true := by
  induction names generalizing e with
  | nil => cases hat; exact h
  | cons name rest ih =>
    rw [at?_cons] at hat
    obtain ⟨child, hchild, hbelow⟩ := Option.bind_eq_some_iff.1 hat
    cases e with
    | file content => cases hchild
    | directory entries =>
      obtain ⟨hnodup, hall⟩ := isProper_directory.1 h
      exact ih (hall (name, child) ((lookup_eq_some_iff_mem hnodup).1 hchild)).2 hbelow

mutual

/-- The files below an entry are where their names lead. -/
theorem at?_of_mem_files : ∀ {e : Entry} {names : List String} {content : Bytes}, e.isProper = true →
    (names, content) ∈ e.files → e.at? names = some (.file content) ∧ ∀ name ∈ names, Path.IsName name
  | file content, names, _, _, hm => by
    rw [files, List.mem_singleton] at hm
    cases hm
    exact ⟨rfl, by simp⟩
  | directory entries, names, content, h, hm => by
    obtain ⟨hnodup, hall⟩ := isProper_directory.1 h
    obtain ⟨name, rest, child, rfl, hchild, hat, hnames⟩ := at?_of_mem_filesOf hall hm
    refine ⟨?_, hnames⟩
    rw [at?_cons]
    exact Option.bind_eq_some_iff.2 ⟨child, (lookup_eq_some_iff_mem hnodup).2 hchild, hat⟩

theorem at?_of_mem_filesOf : ∀ {entries : List (String × Entry)} {names : List String} {content : Bytes},
    (∀ entry ∈ entries, Path.IsName entry.1 ∧ entry.2.isProper = true) → (names, content) ∈ filesOf entries →
      ∃ name rest child, names = name :: rest ∧ (name, child) ∈ entries ∧ child.at? rest = some (.file content) ∧
        ∀ name ∈ names, Path.IsName name
  | [], _, _, _, hm => by cases hm
  | (name, e) :: more, names, content, hall, hm => by
    obtain ⟨⟨hname, he⟩, hmore⟩ := List.forall_mem_cons.1 hall
    rw [filesOf] at hm
    rcases List.mem_append.1 hm with hm | hm
    · obtain ⟨⟨rest, c⟩, hfile, heq⟩ := List.mem_map.1 hm
      cases heq
      obtain ⟨hat, hrest⟩ := at?_of_mem_files he hfile
      exact ⟨name, rest, e, rfl, List.mem_cons_self .., hat, List.forall_mem_cons.2 ⟨hname, hrest⟩⟩
    · obtain ⟨name', rest, child, hnames, hchild, hat, hall'⟩ := at?_of_mem_filesOf hmore hm
      exact ⟨name', rest, child, hnames, List.mem_cons_of_mem _ hchild, hat, hall'⟩

end

end Entry

namespace FileTree

variable {t : FileTree} {place : List String}

/-- A tree as a file system has it, with a current directory. -/
structure Proper (t : FileTree) : Prop where
  top : t.top.isProper = true
  current : t.look t.current = some none

/-! ## Following names -/

theorem follow_append (t : FileTree) (place names more : List String) :
    t.follow place (names ++ more) = t.follow place names >>= fun place => t.follow place more := by
  induction names generalizing place with
  | nil => rfl
  | cons name rest ih =>
    rw [List.cons_append, follow_cons, follow_cons]
    cases t.look place with
    | none => rfl
    | some found =>
      cases found with
      | some content => rfl
      | none =>
        simp only [ih]
        cases t.above? place <;> split_ifs <;> rfl

/-- Names that lead nowhere new need not be followed. -/
theorem follow_filter {names place' : List String} (h : t.follow place names = .ok place') :
    t.follow place (names.filter fun part => part != "" && part != Path.here) = .ok place' := by
  induction names generalizing place with
  | nil => exact h
  | cons name rest ih =>
    rw [follow_cons] at h
    by_cases hn : name = "" ∨ name = Path.here
    · have hskip : (name :: rest).filter (fun part => part != "" && part != Path.here) =
          rest.filter fun part => part != "" && part != Path.here :=
        List.filter_cons_of_neg (by simpa using fun h => by tauto)
      rw [hskip]
      split at h
      · cases h
      · cases h
      · rw [if_pos hn] at h
        exact ih h
    · have hkeep : (name :: rest).filter (fun part => part != "" && part != Path.here) =
          name :: rest.filter fun part => part != "" && part != Path.here :=
        List.filter_cons_of_pos (by simpa using not_or.1 hn)
      rw [hkeep, follow_cons]
      split at h
      · cases h
      · cases h
      · simp only [if_neg hn] at h ⊢
        split_ifs at h ⊢ with habove hchild
        · cases hup : t.above? place with
          | none => rw [hup] at h; cases h
          | some up => rw [hup] at h; exact ih h
        · exact ih h

/-- Names of entries lead down to what stands at their end. -/
theorem follow_names {names : List String} (hnames : ∀ name ∈ names, Path.IsName name) {e : Entry}
    (h : t.top.at? (place ++ names) = some e) : t.follow place names = .ok (place ++ names) := by
  induction names generalizing place with
  | nil => rw [List.append_nil]; rfl
  | cons name rest ih =>
    obtain ⟨⟨hempty, hhere, habove⟩, hrest⟩ := List.forall_mem_cons.1 hnames
    obtain ⟨parent, hparent, hbelow⟩ := Option.bind_eq_some_iff.1 ((Entry.at?_append ..).symm.trans h)
    rw [Entry.at?_cons] at hbelow
    obtain ⟨child, hchild, -⟩ := Option.bind_eq_some_iff.1 hbelow
    have hplace : t.look place = some none := by
      cases parent with
      | file content => cases hchild
      | directory entries => exact Entry.look_eq_directory_iff.2 ⟨entries, hparent⟩
    have hsome : (t.look (place ++ [name])).isSome = true := by
      rw [look, Entry.look, Entry.at?_append, hparent, Option.bind_some, Entry.at?_cons, hchild]
      rfl
    rw [follow_cons, hplace]
    simp only
    rw [if_neg (not_or.2 ⟨hempty, hhere⟩), if_neg habove, if_pos hsome]
    rw [List.append_cons place name rest] at h ⊢
    exact ih hrest h

/-! ## Collected paths -/

/-- A path that leads somewhere. -/
def Has (t : FileTree) (p : Path) : Prop := ∃ place, t.locate p = .ok place ∧ (t.look place).isSome = true

theorem has_here (h : t.Proper) : t.Has ⟨.current, []⟩ := ⟨t.current, rfl, by rw [h.current]; rfl⟩

theorem locate_below (t : FileTree) (p : Path) (names : List String) :
    t.locate (p.below names) = t.locate p >>= fun place => t.follow place names :=
  follow_append ..

/-- What is below a directory leads to a file. -/
theorem leadsToFile_below (h : t.Proper) {p : Path} (hloc : t.locate p = .ok place) {e : Entry}
    (hat : t.top.at? place = some e) {names : List String} (hnames : names ∈ markdownBelow e) :
    ∃ place bytes, t.LeadsToFile (p.below names) place bytes := by
  obtain ⟨⟨names', content⟩, hfile, rfl⟩ := List.mem_map.1 (List.mem_of_mem_filter hnames)
  obtain ⟨hbelow, hall⟩ := Entry.at?_of_mem_files (Entry.isProper_at? h.top hat) hfile
  have hcontent : t.top.at? (place ++ names') = some (.file content) := by
    rw [Entry.at?_append, hat]
    exact hbelow
  refine ⟨place ++ names', content, ?_, Entry.look_eq_file_iff.2 hcontent⟩
  rw [locate_below, hloc]
  exact follow_names hall hcontent

theorem leadsToFile_of_mem_expand (h : t.Proper) {p q : Path} (hp : t.Has p) (hq : q ∈ expand t p) :
    ∃ place bytes, t.LeadsToFile q place bytes := by
  obtain ⟨place, hloc, hsome⟩ := hp
  obtain ⟨e, hat⟩ : ∃ e, t.top.at? place = some e := by
    rw [look, Entry.look, Option.isSome_map] at hsome
    exact Option.isSome_iff_exists.1 hsome
  have hentry : t.entry? p = .ok e := by
    unfold entry?
    simp only [hloc, bind, Except.bind, hat]
    rfl
  unfold expand at hq
  rw [hentry] at hq
  cases e with
  | file content =>
    rw [List.mem_singleton.1 hq]
    exact ⟨place, content, hloc, Entry.look_eq_file_iff.2 hat⟩
  | directory entries =>
    obtain ⟨names, hnames, rfl⟩ := List.mem_map.1 hq
    exact leadsToFile_below h hloc hat hnames

/-- Every path that is collected leads to a file. -/
theorem leadsToFile_of_mem_collect (h : t.Proper) {paths : List Path} (hpaths : ∀ p ∈ paths, t.Has p) {q : Path}
    (hq : q ∈ collect t paths) : ∃ place bytes, t.LeadsToFile q place bytes := by
  obtain ⟨p, hp, hq⟩ := List.mem_flatMap.1 (List.mem_eraseDups.1 (List.mem_mergeSort.1 hq))
  exact leadsToFile_of_mem_expand h (hpaths p hp) hq

end FileTree

end MarkdownStyle
