/-
Collecting is exact. The collected paths are the given ones that are no directories, and below the given
directories the Markdown files that no hidden directory holds. They come once each, ordered by their names,
whatever the order of the given paths and however often one is given: no name holds a slash, so the names
of a path tell it from every other one, and a strictly ordered list is settled by what it contains.
-/
import Mathlib.Data.List.Sort
import Mathlib.Data.String.Basic
import MarkdownStyle.Proofs.Files.Collect

namespace MarkdownStyle

/-! ## Names of paths -/

namespace Path

/-- A name that a path keeps, which the slashes around it end. -/
def IsComponent (name : String) : Prop := name ≠ "" ∧ name ≠ here ∧ '/' ∉ name.toList

instance (name : String) : Decidable (IsComponent name) :=
  inferInstanceAs (Decidable (name ≠ "" ∧ name ≠ here ∧ '/' ∉ name.toList))

/-- A path as texts have it. -/
def IsPlain (p : Path) : Prop := ∀ name ∈ p.parts, IsComponent name

theorem not_mem_of_mem_pieces {s piece : String} (h : piece ∈ pieces s) : '/' ∉ piece.toList := by
  unfold pieces at h
  obtain ⟨part, hpart, rfl⟩ := List.mem_map.1 h
  rw [String.toList_ofList]
  clear h
  -- character by character from the end, for every piece that is there by then
  generalize s.toList = cs at hpart
  induction cs generalizing part with
  | nil =>
    rw [List.mem_singleton.1 hpart]
    exact List.not_mem_nil
  | cons c cs ih =>
    rw [List.foldr_cons] at hpart
    split at hpart
    · rcases List.mem_cons.1 hpart with rfl | hpart
      · exact List.not_mem_nil
      · exact ih part hpart
    · rename_i hc
      have hne : '/' ≠ c := fun heq => hc (by simp [← heq])
      split at hpart
      · rw [List.mem_singleton.1 hpart]
        simpa using hne
      · rename_i first rest heq
        rw [heq] at ih
        rcases List.mem_cons.1 hpart with rfl | hpart
        · simpa [hne] using ih first (List.mem_cons_self ..)
        · exact ih part (List.mem_cons_of_mem _ hpart)

theorem isPlain_ofString (s : String) : (ofString s).IsPlain := by
  intro name hname
  obtain ⟨hpiece, hkept⟩ := List.mem_filter.1 hname
  simp only [Bool.and_eq_true, bne_iff_ne] at hkept
  exact ⟨hkept.1, hkept.2, not_mem_of_mem_pieces hpiece⟩

/-! ## The order of paths -/

theorem namesNotAfter_iff {names others : List String} :
    namesNotAfter names others = true ↔ names = others ∨ names < others := by
  induction names generalizing others with
  | nil => cases others <;> simp [namesNotAfter]
  | cons name names ih =>
    cases others with
    | nil => simp [namesNotAfter]
    | cons other others =>
      simp only [namesNotAfter, Bool.or_eq_true, Bool.and_eq_true, decide_eq_true_eq, beq_iff_eq, ih,
        List.cons_lt_cons_iff, List.cons.injEq]
      tauto

theorem namesNotAfter_iff_le {names others : List String} : namesNotAfter names others = true ↔ names ≤ others :=
  namesNotAfter_iff.trans le_iff_eq_or_lt.symm

theorem notAfter_trans (p q r : Path) (hpq : p.notAfter q = true) (hqr : q.notAfter r = true) :
    p.notAfter r = true := by
  rw [notAfter, namesNotAfter_iff_le] at *
  exact hpq.trans hqr

theorem notAfter_total (p q : Path) : (p.notAfter q || q.notAfter p) = true := by
  rw [Bool.or_eq_true, notAfter, notAfter, namesNotAfter_iff_le, namesNotAfter_iff_le]
  exact le_total ..

theorem text_anchor_injective : Function.Injective Anchor.text := by
  intro a b h
  cases a <;> cases b <;> first | rfl | exact absurd h (by decide)

/-- A root is no name. -/
theorem not_isComponent_text (a : Anchor) : ¬ IsComponent a.text := by
  cases a <;> decide

theorem key_eq (a : Anchor) (parts : List String) :
    key ⟨a, parts⟩ = if a = .current then parts else a.text :: parts := by
  cases a <;> rfl

/-- A path is told by its key, since the root of absolute paths is no name. -/
theorem eq_of_key_eq {p q : Path} (hp : p.IsPlain) (hq : q.IsPlain) (h : p.key = q.key) : p = q := by
  obtain ⟨a, parts⟩ := p
  obtain ⟨b, others⟩ := q
  rw [key_eq, key_eq] at h
  split_ifs at h with ha hb hb
  · rw [ha, hb, h]
  · exact absurd (hp b.text (h ▸ List.mem_cons_self ..)) (not_isComponent_text b)
  · exact absurd (hq a.text (h ▸ List.mem_cons_self ..)) (not_isComponent_text a)
  · obtain ⟨htext, hparts⟩ := List.cons.inj h
    rw [text_anchor_injective htext, hparts]

end Path

theorem nodup_eraseDups {α : Type*} [BEq α] [LawfulBEq α] : ∀ xs : List α, xs.eraseDups.Nodup
  | [] => by simp
  | x :: xs => by
    rw [List.eraseDups_cons, List.nodup_cons]
    refine ⟨fun hx => ?_, nodup_eraseDups _⟩
    simpa using (List.mem_filter.1 (List.mem_eraseDups.1 hx)).2
termination_by xs => xs.length
decreasing_by exact Nat.lt_succ_of_le (List.length_filter_le ..)

/-- Sorting paths without their repetitions orders them strictly. -/
theorem Path.pairwise_key_lt {paths : List Path} (hplain : ∀ p ∈ paths, p.IsPlain) :
    (paths.eraseDups.mergeSort notAfter).Pairwise fun p q => p.key < q.key := by
  have hnodup : (paths.eraseDups.mergeSort notAfter).Nodup :=
    (List.mergeSort_perm ..).nodup_iff.2 (nodup_eraseDups paths)
  have hplain' : ∀ p ∈ paths.eraseDups.mergeSort notAfter, p.IsPlain := fun p hp =>
    hplain p (List.mem_eraseDups.1 (List.mem_mergeSort.1 hp))
  have hsorted := List.pairwise_mergeSort notAfter_trans notAfter_total paths.eraseDups
  refine (hsorted.and hnodup).imp_of_mem fun {p q} hp hq h => ?_
  refine lt_of_le_of_ne (namesNotAfter_iff_le.1 h.1) fun hkey => h.2 ?_
  exact eq_of_key_eq (hplain' p hp) (hplain' q hq) hkey

/-! ## Names of listed files -/

theorem isHidden_iff {name : String} : isHidden name = true ↔ ['.'] <+: name.toList := by
  rw [isHidden, String.startsWith_string_iff]
  rfl

theorem isMarkdown_iff {name : String} : isMarkdown name = true ↔
    Text.lower (suffix name) = ".md".toList ∨ Text.lower (suffix name) = ".markdown".toList := by
  have hread (s : String) : String.ofList (Text.lower (suffix name)) = s ↔ Text.lower (suffix name) = s.toList := by
    rw [← String.toList_inj, String.toList_ofList]
  simp [isMarkdown, hread]

theorem isListed_iff {names : List String} : isListed names = true ↔ ∃ between name,
    names = between ++ [name] ∧ (∀ part ∈ between, isHidden part = false) ∧ isMarkdown name = true := by
  rcases List.eq_nil_or_concat names with rfl | ⟨between, name, rfl⟩
  · simp [isListed]
  · simp [isListed]

namespace Entry

theorem mem_filesOf {entries : List (String × Entry)} {name : String} {child : Entry} (h : (name, child) ∈ entries)
    {rest : List String} {content : Bytes} (hrest : (rest, content) ∈ child.files) :
    (name :: rest, content) ∈ filesOf entries := by
  induction entries with
  | nil => cases h
  | cons entry more ih =>
    rw [filesOf]
    rcases List.mem_cons.1 h with rfl | h
    · exact List.mem_append_left _ (List.mem_map.2 ⟨(rest, content), hrest, rfl⟩)
    · exact List.mem_append_right _ (ih h)

/-- A file that names lead to is among the files below an entry. -/
theorem mem_files_of_at? {e : Entry} {names : List String} {content : Bytes} (h : e.at? names = some (.file content)) :
    (names, content) ∈ e.files := by
  induction names generalizing e with
  | nil =>
    cases h
    exact List.mem_singleton_self _
  | cons name rest ih =>
    rw [at?_cons] at h
    obtain ⟨child, hchild, hbelow⟩ := Option.bind_eq_some_iff.1 h
    cases e with
    | file content => cases hchild
    | directory entries =>
      obtain ⟨front, back, hentries, -⟩ := List.lookup_eq_some_iff.1 hchild
      have hm : (name, child) ∈ entries := by
        rw [show entries = front ++ (name, child) :: back from hentries]
        exact List.mem_append_right _ (List.mem_cons_self ..)
      exact mem_filesOf hm (ih hbelow)

theorem mem_markdownBelow_iff {e : Entry} (h : e.isProper = true) {names : List String} :
    names ∈ markdownBelow e ↔ (∃ content, e.at? names = some (.file content)) ∧ isListed names = true := by
  rw [markdownBelow, List.mem_filter]
  refine and_congr_left fun _ => List.mem_map.trans ⟨?_, ?_⟩
  · rintro ⟨⟨names, content⟩, hm, rfl⟩
    exact ⟨content, (at?_of_mem_files h hm).1⟩
  · rintro ⟨content, hat⟩
    exact ⟨(names, content), mem_files_of_at? hat, rfl⟩

end Entry

namespace FileTree

variable {t : FileTree} {place : List String}

/-- Names of entries lead nowhere but down. -/
theorem place_eq_of_follow {names place' : List String} (hnames : ∀ name ∈ names, Path.IsName name)
    (h : t.follow place names = .ok place') : place' = place ++ names := by
  induction names generalizing place with
  | nil =>
    cases h
    rw [List.append_nil]
  | cons name rest ih =>
    obtain ⟨⟨hempty, hhere, habove⟩, hrest⟩ := List.forall_mem_cons.1 hnames
    rw [follow_cons] at h
    split at h
    · cases h
    · cases h
    · rw [if_neg (not_or.2 ⟨hempty, hhere⟩), if_neg habove] at h
      split_ifs at h
      rw [ih hrest h, List.append_assoc, List.singleton_append]

theorem entry?_eq_ok_iff {p : Path} {e : Entry} :
    t.entry? p = .ok e ↔ ∃ place, t.locate p = .ok place ∧ t.top.at? place = some e := by
  unfold entry?
  cases t.locate p with
  | error fault => simp [bind, Except.bind]
  | ok place =>
    simp only [bind, Except.bind, Except.ok.injEq, exists_eq_left']
    cases t.top.at? place with
    | none => simp
    | some found => exact ⟨fun h => by cases h; rfl, fun h => by cases h; rfl⟩

theorem isDirectory_eq_true_iff {p : Path} :
    t.isDirectory p = true ↔ ∃ entries, t.entry? p = .ok (.directory entries) := by
  unfold isDirectory
  cases t.entry? p with
  | error fault => simp
  | ok e => cases e <;> simp [Entry.isDirectory]

/-! ## Listed files -/

/-- No name in a tree holds a slash. -/
def Slashless (t : FileTree) : Prop := ∀ file ∈ t.top.files, ∀ name ∈ file.1, '/' ∉ name.toList

instance (t : FileTree) : Decidable t.Slashless :=
  inferInstanceAs (Decidable (∀ file ∈ t.top.files, ∀ name ∈ file.1, '/' ∉ name.toList))

/-- A Markdown file below a directory, with no hidden directory in between. -/
structure Lists (t : FileTree) (d : Path) (between : List String) (name : String) : Prop where
  directory : t.isDirectory d = true
  components : ∀ part ∈ between ++ [name], Path.IsComponent part
  file : ∃ place bytes, t.LeadsToFile (d.below (between ++ [name])) place bytes
  ending : Text.lower (suffix name) = ".md".toList ∨ Text.lower (suffix name) = ".markdown".toList
  shown : ∀ part ∈ between, isHidden part = false

/-- The names of a listed file lead down, since a name that leads upward is hidden and has no suffix. -/
theorem Lists.isName {d : Path} {between : List String} {name : String} (h : t.Lists d between name) :
    ∀ part ∈ between ++ [name], Path.IsName part := by
  intro part hpart
  obtain ⟨hempty, hhere, -⟩ := h.components part hpart
  refine ⟨hempty, hhere, ?_⟩
  intro habove
  rw [habove] at hpart
  rcases List.mem_append.1 hpart with hbetween | hname
  · have hhidden : isHidden Path.above = true := isHidden_iff.2 (by decide)
    exact absurd hhidden (by simp [h.shown _ hbetween])
  · have hmarkdown : isMarkdown Path.above = false := by decide
    rw [List.mem_singleton.1 hname, isMarkdown_iff.2 h.ending] at hmarkdown
    cases hmarkdown

/-- Below a directory lie its listed files, whose names are those that the tree has. -/
theorem lists_iff (h : t.Proper) (hslash : t.Slashless) {d : Path} {entries : List (String × Entry)}
    (hd : t.entry? d = .ok (.directory entries)) {between : List String} {name : String} :
    t.Lists d between name ↔ between ++ [name] ∈ markdownBelow (.directory entries) := by
  obtain ⟨place, hloc, hat⟩ := entry?_eq_ok_iff.1 hd
  have hbelow : ∀ names, t.top.at? (place ++ names) = (Entry.directory entries).at? names := fun names => by
    rw [Entry.at?_append, hat, Option.bind_some]
  have hproper := Entry.isProper_at? h.top hat
  rw [Entry.mem_markdownBelow_iff hproper]
  constructor
  · -- the path is followed into the directory, and from there on straight down
    intro hl
    obtain ⟨place', content, hloc', hlook⟩ := hl.file
    have hfollow : t.follow place (between ++ [name]) = .ok place' := by
      rw [locate_below, hloc] at hloc'
      exact hloc'
    rw [place_eq_of_follow hl.isName hfollow] at hlook
    refine ⟨⟨content, ?_⟩, isListed_iff.2 ⟨between, name, rfl, hl.shown, isMarkdown_iff.2 hl.ending⟩⟩
    rw [← hbelow]
    exact Entry.look_eq_file_iff.1 hlook
  · rintro ⟨⟨content, hfile⟩, hlisted⟩
    obtain ⟨between', name', hnames, hshown, hmarkdown⟩ := isListed_iff.1 hlisted
    obtain ⟨rfl, hname⟩ := List.append_inj' hnames rfl
    cases hname
    have hdir : t.isDirectory d = true := isDirectory_eq_true_iff.2 ⟨entries, hd⟩
    refine ⟨hdir, fun part hpart => ?_, ?_, isMarkdown_iff.1 hmarkdown, hshown⟩
    · obtain ⟨hempty, hhere, -⟩ := (Entry.at?_of_mem_files hproper (Entry.mem_files_of_at? hfile)).2 part hpart
      refine ⟨hempty, hhere, ?_⟩
      exact hslash _ (Entry.mem_files_of_at? ((hbelow _).trans hfile)) part (List.mem_append_right _ hpart)
    · exact leadsToFile_below h hloc hat ((Entry.mem_markdownBelow_iff hproper).2 ⟨⟨content, hfile⟩, hlisted⟩)

/-- What one path stands for. -/
theorem mem_expand_iff (h : t.Proper) (hslash : t.Slashless) {d p : Path} :
    p ∈ expand t d ↔
      t.isDirectory d = false ∧ p = d ∨
        ∃ between name, p = d.below (between ++ [name]) ∧ t.Lists d between name := by
  by_cases hd : t.isDirectory d = true
  · obtain ⟨entries, hentry⟩ := isDirectory_eq_true_iff.1 hd
    simp only [hd, Bool.true_eq_false, false_and, false_or, expand, hentry, List.mem_map, lists_iff h hslash hentry]
    constructor
    · rintro ⟨names, hnames, rfl⟩
      obtain ⟨between, name, rfl, -⟩ := isListed_iff.1 (List.mem_filter.1 hnames).2
      exact ⟨between, name, rfl, hnames⟩
    · rintro ⟨between, name, rfl, hnames⟩
      exact ⟨_, hnames, rfl⟩
  · have hsingle : expand t d = [d] := by
      unfold expand
      split
      · rename_i entries hentry
        exact absurd (isDirectory_eq_true_iff.2 ⟨entries, hentry⟩) hd
      · rfl
    rw [hsingle, List.mem_singleton]
    constructor
    · exact fun hp => .inl ⟨Bool.eq_false_iff.2 hd, hp⟩
    · rintro (⟨-, hp⟩ | ⟨between, name, -, hl⟩)
      · exact hp
      · exact absurd hl.directory hd

/-! ## Collected paths, exactly -/

theorem mem_collect_iff (h : t.Proper) (hslash : t.Slashless) {paths : List Path} {p : Path} :
    p ∈ collect t paths ↔
      p ∈ paths ∧ t.isDirectory p = false ∨
        ∃ d ∈ paths, ∃ between name, p = d.below (between ++ [name]) ∧ t.Lists d between name := by
  rw [collect, List.mem_mergeSort, List.mem_eraseDups, List.mem_flatMap]
  simp only [mem_expand_iff h hslash]
  constructor
  · rintro ⟨d, hd, ⟨hdir, rfl⟩ | hlisted⟩
    · exact .inl ⟨hd, hdir⟩
    · exact .inr ⟨d, hd, hlisted⟩
  · rintro (⟨hp, hdir⟩ | ⟨d, hd, hlisted⟩)
    · exact ⟨p, hp, .inl ⟨hdir, rfl⟩⟩
    · exact ⟨d, hd, .inr hlisted⟩

theorem isPlain_of_mem_expand (h : t.Proper) (hslash : t.Slashless) {d p : Path} (hd : d.IsPlain)
    (hp : p ∈ expand t d) : p.IsPlain := by
  rcases (mem_expand_iff h hslash).1 hp with ⟨-, rfl⟩ | ⟨between, name, rfl, hl⟩
  · exact hd
  · intro part hpart
    rcases List.mem_append.1 hpart with hpart | hpart
    · exact hd part hpart
    · exact hl.components part hpart

/-- Paths that are read from texts are collected in strict order, since all paths below them are plain too. -/
theorem pairwise_collect (h : t.Proper) (hslash : t.Slashless) {paths : List Path}
    (hplain : ∀ p ∈ paths, p.IsPlain) :
    (collect t paths).Pairwise fun p q => p.key < q.key := by
  refine Path.pairwise_key_lt fun p hp => ?_
  obtain ⟨d, hd, hp⟩ := List.mem_flatMap.1 hp
  exact isPlain_of_mem_expand h hslash (hplain d hd) hp

/-- Collected paths increase strictly by their names, they are the given files and the listed files of the
given directories, and neither the order of the given paths nor their repetition tells. -/
theorem collect_exact (h : t.Proper) (hslash : t.Slashless) {paths : List Path}
    (hplain : ∀ p ∈ paths, p.IsPlain) :
    ((collect t paths).Pairwise fun p q => p.key < q.key) ∧ (collect t paths).Nodup ∧
      (∀ p, p ∈ collect t paths ↔
        p ∈ paths ∧ t.isDirectory p = false ∨
          ∃ d ∈ paths, ∃ between name, p = d.below (between ++ [name]) ∧ t.Lists d between name) ∧
      ∀ paths', (∀ p, p ∈ paths' ↔ p ∈ paths) → collect t paths' = collect t paths := by
  have hsorted := pairwise_collect h hslash hplain
  refine ⟨hsorted, hsorted.nodup, fun p => mem_collect_iff h hslash, ?_⟩
  intro paths' hsame
  -- two strictly ordered lists of the same paths
  have hsorted' := pairwise_collect h hslash fun p hp => hplain p ((hsame p).1 hp)
  refine hsorted'.eq_of_mem_iff hsorted fun p => ?_
  rw [mem_collect_iff h hslash, mem_collect_iff h hslash]
  simp only [hsame]

/-- A directory, a hidden directory in it and the directory again in a roundabout way: a file of the hidden
one is listed, as that one is given. -/
theorem collect_exact_of_overlap :
    let t : FileTree :=
      ⟨.directory [("a", .directory [(".md", .file []), (".x", .directory [("b.md", .file [])]),
        ("b.md", .directory [("c.MD", .file [])])])], [], ""⟩
    let paths := ["a", "./a/.x", "a/../a", "a/.md"].map Path.ofString
    t.Proper ∧ t.Slashless ∧ (∀ p ∈ paths, p.IsPlain) ∧ (collect t paths).Nodup ∧
      ⟨.current, ["a", ".x", "b.md"]⟩ ∈ collect t paths ∧
        collect t (paths.reverse ++ paths) = collect t paths := by
  intro t paths
  have hproper : t.Proper := ⟨by decide, rfl⟩
  have hslash : t.Slashless := by decide
  have hplain : ∀ p ∈ paths, p.IsPlain := fun p hp => by
    obtain ⟨s, -, rfl⟩ := List.mem_map.1 hp
    exact Path.isPlain_ofString s
  obtain ⟨-, hnodup, hmem, hsame⟩ := collect_exact hproper hslash hplain
  refine ⟨hproper, hslash, hplain, hnodup, ?_, hsame _ fun p => by simp⟩
  refine (hmem _).2 (.inr ⟨⟨.current, ["a", ".x"]⟩, ?_, [], "b.md", rfl, ?_⟩)
  · exact List.mem_map.2 ⟨"./a/.x", by simp, by cbv⟩
  · exact ⟨rfl, by decide, ⟨["a", ".x", "b.md"], [], rfl, rfl⟩, by decide, by simp⟩

end FileTree

end MarkdownStyle
