/-
What a check of files does to a tree. The files are read one after the other, and fixing rewrites each of
them by itself; so at the end a place holds what it held before, fixed once for each path that led to it
before the first file that could not be decoded. Nothing else of the tree changes.
-/
import MarkdownStyle.Command.Check
import MarkdownStyle.Proofs.Command.Switch
import MarkdownStyle.Proofs.Files.Collect
import MarkdownStyle.Proofs.Files.Fix
import Mathlib

namespace MarkdownStyle

/-! ## Checking one file -/

namespace Linter

variable {l : Linter} {t : FileTree} {p : Path} {place : List String} {bytes : Bytes} {s : Text}

/-- The bytes that a check leaves in a file. -/
def bytesAfter (l : Linter) (fix : Bool) (bytes : Bytes) : Bytes := if fix then l.fixedBytes bytes else bytes

/-- The report of a check about a file with a text. -/
def reportOn (l : Linter) (fix : Bool) (p : Path) (s : Text) : Report :=
  if fix then (l.fix (Text.unifyBreaks s) p.toString).2 else l.lint (Text.unifyBreaks s) p.toString

/-- Checking a file: the tree after it, and the report. -/
def checkAt (l : Linter) (fix : Bool) (t : FileTree) (p : Path) : Except FileError (FileTree × Report) :=
  if fix then l.fixAt t p else (l.lintAt t p).map fun report => (t, report)

theorem checkAt_eq (l : Linter) (fix : Bool) (h : t.LeadsToFile p place bytes) (hs : Text.decode bytes = .ok s) :
    ∃ t', l.checkAt fix t p = .ok (t', l.reportOn fix p s) ∧ t.Rewritten t' place (l.bytesAfter fix bytes) := by
  cases fix with
  | true => exact l.fixAt_eq h hs
  | false =>
    refine ⟨t, ?_, h.rewritten_self⟩
    show (l.lintAt t p).map _ = _
    rw [lintAt, h.readText, hs]
    rfl

theorem checkAt_error (l : Linter) (fix : Bool) {e : FileError} (h : t.readText p = .error e) :
    l.checkAt fix t p = .error e := by
  unfold checkAt fixAt lintAt
  rw [h]
  cases fix <;> rfl

/-- Checking changes nothing about whether a file can be decoded. -/
theorem isOk_decode_bytesAfter (l : Linter) (fix : Bool) (bytes : Bytes) :
    (Text.decode (l.bytesAfter fix bytes)).isOk = (Text.decode bytes).isOk := by
  cases fix with
  | false => rfl
  | true =>
    show (Text.decode (l.fixedBytes bytes)).isOk = _
    cases hs : Text.decode bytes with
    | error e => rw [fixedBytes_of_error hs, hs]
    | ok s =>
      obtain ⟨s', hs'⟩ := l.decode_fixedBytes hs
      rw [hs']
      rfl

end Linter

/-! ## Checking files -/

namespace FileTree

/-- Whether the file at a path can be read. -/
def isText (t : FileTree) (p : Path) : Bool := (t.readText p).isOk

/-- How many of some paths lead to a place. -/
def visits (t : FileTree) (paths : List Path) (place : List String) : Nat :=
  paths.countP fun p => decide (t.locate p = .ok place)

variable {t t' : FileTree} {p : Path} {place : List String} {bytes : Bytes}

theorem LeadsToFile.isText (h : t.LeadsToFile p place bytes) : t.isText p = (Text.decode bytes).isOk := by
  unfold FileTree.isText
  rw [h.readText]
  cases Text.decode bytes <;> rfl

theorem SameShape.visits (h : SameShape t t') (paths : List Path) (place : List String) :
    t'.visits paths place = t.visits paths place := by
  unfold FileTree.visits
  simp only [h.locate]

theorem visits_cons (t : FileTree) (p : Path) (paths : List Path) (place : List String) :
    t.visits (p :: paths) place = t.visits paths place + if t.locate p = .ok place then 1 else 0 := by
  unfold visits
  rw [List.countP_cons]
  simp only [decide_eq_true_eq]

end FileTree

/-- What a check of files leaves of a tree: every place holds what it held before, checked as often as one
of the paths leads there. -/
structure Linter.Leaves (l : Linter) (fix : Bool) (paths : List Path) (t t' : FileTree) : Prop where
  shape : t.SameShape t'
  look : ∀ place, t'.look place = (t.look place).map (·.map (l.bytesAfter fix)^[t.visits paths place])

/-- The reports of a check: each is about the text that the paths before it left. -/
structure Linter.Reports (l : Linter) (fix : Bool) (t : FileTree) (paths : List Path)
    (reports : List Report) : Prop where
  length : reports.length = paths.length
  report : ∀ i p, paths[i]? = some p → ∃ place bytes s, t.LeadsToFile p place bytes ∧
    Text.decode ((l.bytesAfter fix)^[t.visits (paths.take i) place] bytes) = .ok s ∧
    reports[i]? = some (l.reportOn fix p s)

namespace Linter

variable {l : Linter} {fix : Bool} {t t' t'' : FileTree} {p : Path} {place : List String} {bytes : Bytes}
  {paths : List Path}

theorem Leaves.refl (l : Linter) (fix : Bool) (t : FileTree) : l.Leaves fix [] t t where
  shape := .refl t
  look place := by
    show _ = (t.look place).map fun content => content.map id
    simp

/-- What one check and then others leave. -/
theorem Leaves.cons (hfile : t.LeadsToFile p place bytes) (hstep : t.Rewritten t' place (l.bytesAfter fix bytes))
    (h : l.Leaves fix paths t' t'') : l.Leaves fix (p :: paths) t t'' where
  shape := hstep.shape.trans h.shape
  look names := by
    rw [h.look, hstep.shape.visits, hstep.look, FileTree.visits_cons, hfile.locate]
    by_cases hn : names = place
    · rw [if_pos hn, hn, hfile.look, if_pos rfl]
      rfl
    · rw [if_neg hn, if_neg fun he => hn (Except.ok.inj he).symm]
      rfl

/-- The report about one file and then those about others. -/
theorem Reports.cons {s : Text} {reports : List Report} (hfile : t.LeadsToFile p place bytes)
    (hs : Text.decode bytes = .ok s) (hstep : t.Rewritten t' place (l.bytesAfter fix bytes))
    (hfiles : ∀ q ∈ paths, ∃ place bytes, t.LeadsToFile q place bytes) (h : l.Reports fix t' paths reports) :
    l.Reports fix t (p :: paths) (l.reportOn fix p s :: reports) where
  length := by rw [List.length_cons, List.length_cons, h.length]
  report
    | 0, q, hq => by
      cases hq
      exact ⟨place, bytes, s, hfile, hs, rfl⟩
    | i + 1, q, hq => by
      rw [List.getElem?_cons_succ] at hq
      obtain ⟨placeQ, bytesQ, hfileQ⟩ := hfiles q (List.mem_of_getElem? hq)
      obtain ⟨place', bytes', s', hfile', hs', hreport⟩ := h.report i q hq
      have hafter := hstep.leadsToFile hfileQ
      obtain rfl : place' = placeQ := Except.ok.inj (hfile'.locate.symm.trans hafter.locate)
      rw [hafter.bytes_eq hfile', hstep.shape.visits] at hs'
      refine ⟨place', bytesQ, s', hfileQ, ?_, by rw [List.getElem?_cons_succ, hreport]⟩
      rw [List.take_succ_cons, FileTree.visits_cons, hfile.locate, ← hs']
      by_cases hn : place' = place
      · subst hn
        rw [if_pos rfl, if_pos rfl, hfile.bytes_eq hfileQ]
        rfl
      · rw [if_neg hn, if_neg fun he => hn (Except.ok.inj he).symm]
        rfl

/-- What could be read before a check can be read after it, and nothing else. -/
theorem isText_of_checked (hfile : t.LeadsToFile p place bytes)
    (hstep : t.Rewritten t' place (l.bytesAfter fix bytes)) {q : Path} {placeQ : List String} {bytesQ : Bytes}
    (hq : t.LeadsToFile q placeQ bytesQ) : t'.isText q = t.isText q := by
  rw [(hstep.leadsToFile hq).isText, hq.isText]
  by_cases hn : placeQ = place
  · subst hn
    rw [if_pos rfl, l.isOk_decode_bytesAfter, hfile.bytes_eq hq]
  · rw [if_neg hn]

end Linter

/-! ## Whole runs -/

theorem takeWhile_congr {α : Type} {p q : α → Bool} {xs : List α} (h : ∀ x ∈ xs, p x = q x) :
    xs.takeWhile p = xs.takeWhile q := by
  induction xs with
  | nil => rfl
  | cons x xs ih =>
    obtain ⟨hx, hxs⟩ := List.forall_mem_cons.1 h
    rw [List.takeWhile_cons, List.takeWhile_cons, hx, ih hxs]

namespace Command

variable {l : Linter} {fix : Bool} {t t' : FileTree} {p : Path} {rest : List Path}

theorem checkFiles_cons_of_ok {report : Report} (h : l.checkAt fix t p = .ok (t', report)) :
    checkFiles l fix t (p :: rest) =
      ((checkFiles l fix t' rest).1, (checkFiles l fix t' rest).2.map (report :: ·)) := by
  unfold Linter.checkAt at h
  rw [checkFiles]
  simp only [h]

theorem checkFiles_cons_of_error {e : FileError} (h : l.checkAt fix t p = .error e) :
    checkFiles l fix t (p :: rest) = (t, .error (p, e)) := by
  unfold Linter.checkAt at h
  rw [checkFiles]
  simp only [h]

/-- Without fixing the tree stays as it is. -/
theorem checkFiles_lint (l : Linter) (t : FileTree) (paths : List Path) : (checkFiles l false t paths).1 = t := by
  induction paths with
  | nil => rfl
  | cons p rest ih =>
    cases h : l.lintAt t p with
    | error e =>
      have hcheck : l.checkAt false t p = .error e := by simp [Linter.checkAt, h, Except.map]
      rw [checkFiles_cons_of_error hcheck]
    | ok report =>
      have hcheck : l.checkAt false t p = .ok (t, report) := by simp [Linter.checkAt, h, Except.map]
      rw [checkFiles_cons_of_ok hcheck, ih]

/-- The files before the first one that cannot be decoded are checked, each as those before it left it. If
there is such a file the run ends with it, and otherwise there is a report on each file. -/
theorem checkFiles_eq (l : Linter) (fix : Bool) {paths : List Path}
    (hfiles : ∀ p ∈ paths, ∃ place bytes, t.LeadsToFile p place bytes) :
    ∃ t', l.Leaves fix (paths.takeWhile t.isText) t t' ∧
      ((paths.takeWhile t.isText = paths ∧
          ∃ reports, checkFiles l fix t paths = (t', .ok reports) ∧ l.Reports fix t paths reports) ∨
        ∃ p rest e, paths = paths.takeWhile t.isText ++ p :: rest ∧
          checkFiles l fix t paths = (t', .error (p, .undecodable e))) := by
  induction paths generalizing t with
  | nil => exact ⟨t, .refl l fix t, .inl ⟨rfl, [], rfl, rfl, by simp⟩⟩
  | cons p rest ih =>
    obtain ⟨⟨place, bytes, hfile⟩, hrest⟩ := List.forall_mem_cons.1 hfiles
    rw [List.takeWhile_cons]
    cases hs : Text.decode bytes with
    | error e =>
      have hunread : t.isText p = false := by rw [hfile.isText, hs]; rfl
      have herror : t.readText p = .error (.undecodable e) := by rw [hfile.readText, hs]
      rw [hunread]
      exact ⟨t, .refl l fix t, .inr ⟨p, rest, e, rfl, checkFiles_cons_of_error (l.checkAt_error fix herror)⟩⟩
    | ok s =>
      have hread : t.isText p = true := by rw [hfile.isText, hs]; rfl
      obtain ⟨t₁, hcheck, hstep⟩ := l.checkAt_eq fix hfile hs
      -- the other files are checked in the tree that the first one leaves, where the same ones can be read
      have hsame : rest.takeWhile t₁.isText = rest.takeWhile t.isText := takeWhile_congr fun q hq => by
        obtain ⟨placeQ, bytesQ, hfileQ⟩ := hrest q hq
        exact Linter.isText_of_checked hfile hstep hfileQ
      obtain ⟨t', hleaves, hrun⟩ := @ih t₁ fun q hq => by
        obtain ⟨placeQ, bytesQ, hfileQ⟩ := hrest q hq
        exact ⟨placeQ, _, hstep.leadsToFile hfileQ⟩
      rw [hsame] at hleaves hrun
      rw [hread]
      refine ⟨t', .cons hfile hstep hleaves, ?_⟩
      rcases hrun with ⟨hall, reports, hrun, hreports⟩ | ⟨q, more, e, hsplit, hrun⟩
      · refine .inl ⟨congrArg (p :: ·) hall, _, ?_, .cons hfile hs hstep hrest hreports⟩
        rw [checkFiles_cons_of_ok hcheck, hrun]
        rfl
      · refine .inr ⟨q, more, e, congrArg (p :: ·) hsplit, ?_⟩
        rw [checkFiles_cons_of_ok hcheck, hrun]
        rfl

/-- The outcome of checking files. Without fixing nothing changes; with it, each file before the first one
that cannot be decoded is fixed once for each path that leads to it. If there is such a file the status is
2, and otherwise it tells whether a report has issues left. -/
structure Checks (k : Packages) (l : Linter) (fix json : Bool) (t : FileTree) (files : List Path) (o : Outcome) :
    Prop where
  reads : ∀ p ∈ files, ∃ place bytes, t.LeadsToFile p place bytes ∧ t.isText p = (Text.decode bytes).isOk
  keeps : fix = false → o.tree = t
  leaves : l.Leaves fix (files.takeWhile t.isText) t o.tree
  stops : files.takeWhile t.isText ≠ files → o.exitCode = 2
  finishes : files.takeWhile t.isText = files → ∃ reports, l.Reports fix t files reports ∧
    o.output = (if json then [.reports reports] else reportsOutput k reports) ∧
    o.exitCode = if ∃ r ∈ reports, r.issues ≠ [] then 1 else 0

variable {k : Packages} {c : CheckOptions}

theorem linterOf_of_nil {config : Option Path} (h : configOf k t config = .ok []) :
    linterOf k t config = .ok .house := by
  unfold linterOf
  rw [h]
  exact Linter.ofConfig_nil

/-- A linter that is set up for a command runs the built-in rules. -/
theorem registry_of_linterOf {config : Option Path} (h : linterOf k t config = .ok l) : l.registry = .builtin := by
  unfold linterOf at h
  cases hc : configOf k t config with
  | error e => rw [hc] at h; cases h
  | ok entries => rw [hc] at h; exact (Linter.ofConfig_eq_ok h).1

theorem exitCode_reports (reports : List Report) :
    (if reports.all (·.isClean) then 0 else 1) = if ∃ r ∈ reports, r.issues ≠ [] then 1 else 0 := by
  have hclean : reports.all (·.isClean) = true ↔ ¬ ∃ r ∈ reports, r.issues ≠ [] := by
    simp [Report.isClean]
  by_cases h : ∃ r ∈ reports, r.issues ≠ []
  · rw [if_pos h, if_neg (by rw [hclean]; exact not_not.2 h)]
  · rw [if_neg h, if_pos (hclean.2 h)]

theorem leadsToFile_of_mem_files (ht : t.Proper) (hpaths : ∀ p ∈ c.paths, t.Has p) (hp : p ∈ c.files t) :
    ∃ place bytes, t.LeadsToFile p place bytes := by
  refine FileTree.leadsToFile_of_mem_collect ht (fun q hq => ?_) hp
  split at hq
  · rw [List.mem_singleton.1 hq]
    exact t.has_here ht
  · exact hpaths q hq

theorem exitCode_configRefusal {e : ConfigFault} (h : ∀ message, e ≠ .loaderFailed message) :
    (configRefusal k e).exitCode = 2 := by
  unfold configRefusal
  split
  · rename_i message
    exact absurd rfl (h message)
  · rfl

theorem runCheck_of_error {e : ConfigFault}
    (h : (linterOf k t c.config >>= fun l => switched l c.enable c.disable) = .error e) :
    runCheck k t c = ⟨configRefusal k e, t⟩ := by
  unfold runCheck
  rw [h]

section SetUp

variable {l : Linter} (hl : (linterOf k t c.config >>= fun l => switched l c.enable c.disable) = .ok l)

include hl

theorem runCheck_of_unread {e : FileError} (h : checkFiles l c.fix t (c.files t) = (t', .error (p, e))) :
    runCheck k t c = ⟨fileRefusal k p e, t'⟩ := by
  unfold runCheck
  simp only [hl, h]

theorem runCheck_of_reports {reports : List Report} (h : checkFiles l c.fix t (c.files t) = (t', .ok reports)) :
    runCheck k t c = ⟨⟨if reports.all (·.isClean) then 0 else 1,
      if c.json then [.reports reports] else reportsOutput k reports⟩, t'⟩ := by
  unfold runCheck
  simp only [hl, h]

/-- With its linter set up, a check checks the files that its paths stand for. -/
theorem checks_runCheck (ht : t.Proper) (hpaths : ∀ p ∈ c.paths, t.Has p) :
    Checks k l c.fix c.json t (c.files t) (runCheck k t c) := by
  have hfiles : ∀ p ∈ c.files t, ∃ place bytes, t.LeadsToFile p place bytes :=
    fun p hp => leadsToFile_of_mem_files ht hpaths hp
  have hreads : ∀ p ∈ c.files t, ∃ place bytes, t.LeadsToFile p place bytes ∧
      t.isText p = (Text.decode bytes).isOk := by
    intro p hp
    obtain ⟨place, bytes, hfile⟩ := hfiles p hp
    exact ⟨place, bytes, hfile, hfile.isText⟩
  have hkeeps : c.fix = false → (checkFiles l c.fix t (c.files t)).1 = t := by
    intro hfix
    rw [hfix]
    exact checkFiles_lint l t _
  obtain ⟨t', hleaves, hrun⟩ := checkFiles_eq l c.fix hfiles
  rcases hrun with ⟨hall, reports, hrun, hreports⟩ | ⟨p, rest, e, hsplit, hrun⟩
  · rw [runCheck_of_reports hl hrun]
    rw [hrun] at hkeeps
    exact ⟨hreads, hkeeps, hleaves, fun hstop => absurd hall hstop, fun _ => ⟨reports, hreports, rfl,
      exitCode_reports reports⟩⟩
  · have hstop : (c.files t).takeWhile t.isText ≠ c.files t := by
      intro hall
      rw [hall] at hsplit
      simp at hsplit
    rw [runCheck_of_unread hl hrun]
    rw [hrun] at hkeeps
    exact ⟨hreads, hkeeps, hleaves, fun _ => rfl, fun hall => absurd hall hstop⟩

end SetUp

/-- Switching rules leaves each rule with its options, on if it was on or is switched on and is not
switched off. -/
theorem forall₂_rules_switches (l : Linter) (enable disable : List String) :
    List.Forall₂ (fun (old new : Rule × Setting) => new.1 = old.1 ∧ new.2.options = old.2.options ∧
        (new.2.enabled = true ↔ (old.2.enabled = true ∨ ∃ key ∈ enable, l.registry.Resolves key old.1) ∧
          ∀ key ∈ disable, ¬ l.registry.Resolves key old.1))
      l.rules (l.after (switches enable true ++ switches disable false)).rules := by
  rw [l.rules_after, List.forall₂_map_right_iff, List.forall₂_same]
  intro entry hentry
  have hrule : entry.1 ∈ l.registry.rules := by
    rw [← l.map_fst_rules]
    exact List.mem_map_of_mem hentry
  obtain ⟨hsame, hoptions, henabled⟩ := foldl_applyTo (switches enable true ++ switches disable false) hrule
  exact ⟨hsame, hoptions, henabled.trans Registry.leavesOn_switches⟩

/-- What a check changes, over all trees, loaders and options whose paths lead somewhere. A configuration or a
key that is refused ends the run before any file is touched, and so does an error of the loader. Otherwise
the rules are switched, those that are switched off last, and the files that the paths stand for are checked
in order. -/
theorem runCheck_exact (k : Packages) {t : FileTree} (ht : t.Proper) {c : CheckOptions}
    (hpaths : ∀ p ∈ c.paths, t.Has p) :
    let o := runCheck k t c
    (∀ e, linterOf k t c.config = .error e →
        o.tree = t ∧ ((∀ message, e ≠ .loaderFailed message) → o.exitCode = 2)) ∧
      ∀ l, linterOf k t c.config = .ok l →
        ((∃ key ∈ c.enable ++ c.disable, ∀ rule, ¬ Registry.builtin.Resolves key rule) →
          o.exitCode = 2 ∧ o.tree = t) ∧
        ((∀ key ∈ c.enable ++ c.disable, ∃ rule, Registry.builtin.Resolves key rule) →
          ∃ l' : Linter, l'.registry = .builtin ∧
            List.Forall₂ (fun (old new : Rule × Setting) => new.1 = old.1 ∧ new.2.options = old.2.options ∧
                (new.2.enabled = true ↔
                  (old.2.enabled = true ∨ ∃ key ∈ c.enable, Registry.builtin.Resolves key old.1) ∧
                    ∀ key ∈ c.disable, ¬ Registry.builtin.Resolves key old.1))
              l.rules l'.rules ∧
            Checks k l' c.fix c.json t (c.files t) o) := by
  intro o
  constructor
  · intro e he
    have ho : o = ⟨configRefusal k e, t⟩ := runCheck_of_error (by rw [he]; rfl)
    rw [ho]
    exact ⟨rfl, exitCode_configRefusal⟩
  · intro l hl
    have hregistry := registry_of_linterOf hl
    rw [← hregistry]
    constructor
    · intro hbad
      obtain ⟨key, hkey⟩ := switched_of_not_resolves hbad
      have ho : o = ⟨configRefusal k (.unknownRule key), t⟩ := runCheck_of_error (by rw [hl]; exact hkey)
      rw [ho]
      exact ⟨rfl, rfl⟩
    · intro hall
      refine ⟨_, l.registry_after _, forall₂_rules_switches l c.enable c.disable, ?_⟩
      exact checks_runCheck (by rw [hl]; exact switched_of_resolves hall) ht hpaths

end Command

/-! ## A run that stops -/

/-- A tree with a configuration and two files, of which the first one cannot be decoded. -/
def FileTree.broken : FileTree :=
  ⟨.directory [(".mdlint.yaml", .file (Text.encode "default: true\n".toList)), ("a.md", .file [0xFF]),
    ("b.md", .file (Text.encode "- b\n".toList))], [], ""⟩

/-- A loader that knows the text of one configuration. -/
def Packages.ofDefault : Packages where
  load text := if text = "default: true\n".toList then .object (.map [(.str "default", .bool true)]) else .malformed
  escape := id

/-- The run stops at the first file, though it is given last, and the other one keeps its fault. -/
theorem Command.runCheck_exact_of_broken :
    let c : CheckOptions := ⟨[⟨.current, ["b.md"]⟩, ⟨.current, ["a.md"]⟩], none, true, false, [], ["HM002"]⟩
    let o := runCheck .ofDefault .broken c
    FileTree.broken.Proper ∧ (∀ p ∈ c.paths, FileTree.broken.Has p) ∧ linterOf .ofDefault .broken none = .ok .house ∧
      o.exitCode = 2 ∧ o.tree.look ["b.md"] = some (some (Text.encode "- b\n".toList)) := by
  intro c o
  have hproper : FileTree.broken.Proper := ⟨rfl, rfl⟩
  have hpaths : ∀ p ∈ c.paths, FileTree.broken.Has p := by
    intro p hp
    rcases List.mem_pair.1 hp with rfl | rfl
    · exact ⟨["b.md"], rfl, rfl⟩
    · exact ⟨["a.md"], rfl, rfl⟩
  have hlinter : linterOf .ofDefault .broken none = .ok .house := by rfl
  have hresolves : ∀ key ∈ ([] : List String) ++ ["HM002"], ∃ rule, Registry.builtin.Resolves key rule := by
    intro key hkey
    rw [List.nil_append, List.mem_singleton] at hkey
    rw [hkey]
    exact ⟨fenceRule, Registry.find?_eq_some_iff.1 rfl⟩
  have hfiles : c.files .broken = [⟨.current, ["a.md"]⟩, ⟨.current, ["b.md"]⟩] := by cbv
  have hread : [⟨.current, ["a.md"]⟩, ⟨.current, ["b.md"]⟩].takeWhile FileTree.broken.isText = [] := rfl
  obtain ⟨-, hall⟩ := runCheck_exact .ofDefault hproper hpaths
  obtain ⟨l, -, -, hchecks⟩ := (hall .house hlinter).2 hresolves
  rw [hfiles] at hchecks
  refine ⟨hproper, hpaths, hlinter, hchecks.stops (by rw [hread]; decide), ?_⟩
  rw [hchecks.leaves.look, hread]
  rfl

/-! ## A file under two paths -/

/-- A tree with a file and an empty directory beside it. -/
def FileTree.besideDirectory (text : Text) : FileTree :=
  ⟨.directory [("a.md", .file (Text.encode text)), ("d", .directory [])], [], ""⟩

/-- Fixing the file under its path, and under one that takes a turn through the directory. -/
def CheckOptions.turns : CheckOptions :=
  ⟨[⟨.current, ["a.md"]⟩, ⟨.current, ["d", "..", "a.md"]⟩], none, true, false, [], []⟩

theorem leadsToFile_turns (text : Text) {p : Path} (hp : p ∈ CheckOptions.turns.paths) :
    (FileTree.besideDirectory text).LeadsToFile p ["a.md"] (Text.encode text) := by
  rcases List.mem_pair.1 hp with rfl | rfl
  · exact ⟨rfl, rfl⟩
  · exact ⟨rfl, rfl⟩

namespace Command

theorem files_turns (text : Text) : CheckOptions.turns.files (.besideDirectory text) = CheckOptions.turns.paths := by
  cbv

theorem has_of_mem_turns (text : Text) : ∀ p ∈ CheckOptions.turns.paths, (FileTree.besideDirectory text).Has p := by
  intro p hp
  have hfile := leadsToFile_turns text hp
  exact ⟨["a.md"], hfile.locate, by rw [hfile.look]; rfl⟩

/-- Both paths lead to the file, so it is fixed twice. -/
theorem look_runCheck_turns (k : Packages) (text : Text) :
    let o := runCheck k (.besideDirectory text) .turns
    o.exitCode ≠ 2 ∧
      o.tree.look ["a.md"] = some (some (Linter.house.fixedBytes (Linter.house.fixedBytes (Text.encode text)))) := by
  intro o
  have hchecks : Checks k .house true false (.besideDirectory text) CheckOptions.turns.paths o := by
    have hlinter : (linterOf k (.besideDirectory text) none >>= fun l => switched l [] []) = .ok .house := by
      rw [@linterOf_of_nil (.besideDirectory text) k none rfl]
      rfl
    have hrun := @checks_runCheck (.besideDirectory text) k .turns .house hlinter ⟨rfl, rfl⟩ (has_of_mem_turns text)
    rw [files_turns] at hrun
    exact hrun
  have hall : CheckOptions.turns.paths.takeWhile (FileTree.besideDirectory text).isText = CheckOptions.turns.paths := by
    refine List.takeWhile_eq_self_iff.2 fun p hp => ?_
    rw [(leadsToFile_turns text hp).isText, Text.decode_encode]
    rfl
  constructor
  · obtain ⟨reports, -, -, hcode⟩ := hchecks.finishes hall
    rw [hcode]
    split <;> decide
  · rw [hchecks.leaves.look, hall]
    rfl

end Command

/-- The two paths are two files to a check, and what fixing twice gives is not what fixing once gives. -/
theorem Command.runCheck_exact_twice :
    let s := "```~x\n```\n".toList
    let k : Packages := ⟨fun _ => .malformed, id⟩
    let o := runCheck k (.besideDirectory s) .turns
    (FileTree.besideDirectory s).Proper ∧ (∀ p ∈ CheckOptions.turns.paths, (FileTree.besideDirectory s).Has p) ∧
      linterOf k (.besideDirectory s) none = .ok .house ∧
      (FileTree.besideDirectory s).look ["a.md"] = some (some (Text.encode s)) ∧ o.exitCode ≠ 2 ∧
      o.tree.look ["a.md"] ≠ some (some (Text.encode (Linter.house.fix s "").1)) := by
  intro s k o
  obtain ⟨hcode, hlook⟩ := look_runCheck_turns k s
  refine ⟨⟨rfl, rfl⟩, has_of_mem_turns s, linterOf_of_nil rfl, rfl, hcode, fun hsame => ?_⟩
  have hfixable : ¬ ∀ i ∈ (Linter.house.lint s "").issues, i.isFixable = false := by
    rw [← Linter.quiet_iff rfl]
    decide
  -- the tilde of the info string joins the new opener, so fixing once leaves it a tilde too long
  have honce : (Linter.house.fix s "").1 ≠ s := mt (Linter.fix_eq_self_iff Linter.ofConfig_nil s "").1 hfixable
  have htwice : (Linter.house.fix (Linter.house.fix s "").1 "").1 ≠ (Linter.house.fix s "").1 := by
    rw [ne_eq, Linter.fix_eq_self_iff_quiet Linter.ofConfig_nil, Linter.mendingOf,
      Linter.lines_fix Linter.ofConfig_nil]
    decide
  have hreturn : '\r' ∉ (Linter.house.fix s "").1 := by
    rw [Linter.mem_fix_iff Linter.ofConfig_nil hfixable]
    decide
  rw [show o.tree.look ["a.md"] = _ from hlook, Linter.fixedBytes_encode (by decide) honce,
    Linter.fixedBytes_encode hreturn htwice, Option.some.injEq, Option.some.injEq] at hsame
  have hdecoded := congrArg Text.decode hsame
  rw [Text.decode_encode, Text.decode_encode, Except.ok.injEq] at hdecoded
  exact htwice hdecoded

end MarkdownStyle
