/-
The rules that offer edits look at a document site by site: at a line with its role, the state of
the fence scan before it and the blank lines directly above it. The scan of the fence rule and the
counting of the blank line rule are the same for all of them, so each rule is one check of a site,
carried out along the document.
-/
import MarkdownStyle.Proofs.Line.Pass
import MarkdownStyle.Rule.Registry

namespace MarkdownStyle

/-- A line of a document with what stands above it: the state of the fence scan, and the number of
blank lines directly above, none where nothing else stands above. -/
structure Site where
  line : Line
  fence : FenceState
  blanks : Option Nat

/-- The number of blank lines above the next line. -/
def blanksBelow (blanks : Option Nat) (role : LineRole) : Option Nat :=
  if role == .blank then blanks.map (· + 1) else some 0

/-- The sites of classified lines from a state of the fence scan. -/
def sitesFrom (s : FenceState) (blanks : Option Nat) : List Line → List Site
  | [] => []
  | line :: rest =>
    ⟨line, s, blanks⟩ :: sitesFrom (s.step line.text).1 (blanksBelow blanks line.role) rest

/-- The sites of a document. -/
def sites (lines : List Text) : List Site := sitesFrom .outside none (classify lines)

theorem map_line_sitesFrom : ∀ (s : FenceState) (blanks : Option Nat) (doc : List Line),
    (sitesFrom s blanks doc).map (·.line) = doc
  | _, _, [] => rfl
  | s, blanks, line :: rest => by
    rw [sitesFrom, List.map_cons, map_line_sitesFrom]

theorem map_line_sites (lines : List Text) : (sites lines).map (·.line) = classify lines :=
  map_line_sitesFrom ..

theorem map_number_sites (lines : List Text) :
    (sites lines).map (·.line.number) = List.range' 1 lines.length := by
  rw [← map_number_classifyFrom .start 1 lines]
  show _ = (classify lines).map (·.number)
  rw [← map_line_sites, List.map_map]
  rfl

theorem map_text_sites (lines : List Text) : (sites lines).map (·.line.text) = lines := by
  have h := map_text_classifyFrom .start 1 lines
  show _ = lines
  conv_rhs => rw [← h]
  show _ = (classify lines).map (·.text)
  rw [← map_line_sites, List.map_map]
  rfl

theorem map_zipIdx_sites (lines : List Text) :
    (sites lines).map (fun x => (x.line.text, x.line.number)) = lines.zipIdx 1 := by
  have h : ((sites lines).map (·.line.text)).zip ((sites lines).map (·.line.number)) = _ := List.zip_map'
  rw [map_text_sites, map_number_sites] at h
  rw [← h, List.zipIdx_eq_zip_range']

theorem sitesFrom_cons (s : LineScan) (number : Nat) (blanks : Option Nat) (line : Text) (rest : List Text) :
    let below := classifyFrom (s.next line) (number + 1) rest
    let role := (s.role line).settled line (below.head?.map (·.role))
    sitesFrom s.fence blanks (classifyFrom s number (line :: rest)) =
      ⟨⟨number, line, role⟩, s.fence, blanks⟩ ::
        sitesFrom (s.next line).fence (blanksBelow blanks role) below := rfl

/-! ## Checks of sites -/

/-- What a rule finds at one site, if it can be carried out there. -/
abbrev SiteCheck := Site → Except CheckFailure (Option Finding)

def DashItem.check (style : Style) : SiteCheck := fun x => finding? style x.line

def FenceStyle.check (length : Int) : SiteCheck := fun x =>
  if x.line.role = .fence then finding? length x.line.number x.line.text (!x.fence.isOpen) else .ok none

def BlankLine.check (style : Style) : SiteCheck := fun x =>
  match x.blanks with
  | none => .ok none
  | some count => finding? style count x.line

/-- What a check finds along a document. It fails where the check fails at a site. -/
def SiteCheck.findings (check : SiteCheck) (xs : List Site) : Except CheckFailure (List Finding) :=
  (xs.mapM check).map (·.filterMap id)

theorem SiteCheck.findings_nil (check : SiteCheck) : check.findings [] = .ok [] := rfl

theorem SiteCheck.findings_cons (check : SiteCheck) (x : Site) (xs : List Site) :
    check.findings (x :: xs) = (do
      let found ← check x
      let more ← check.findings xs
      return found.toList ++ more) := by
  unfold SiteCheck.findings
  rw [List.mapM_cons]
  rcases check x with e | found
  · rfl
  · rcases hm : xs.mapM check with e | more
    · simp [bind, Except.bind, Except.map]
    · cases found <;> simp [bind, Except.bind, pure, Except.pure, Except.map]

/-! ## The rules as checks of sites -/

theorem dashItemRule_check (d : Document) (o : Options) :
    dashItemRule.check d o = (DashItem.check (.ofOptions o)).findings (sites d.lines) := by
  have h : ∀ (xs : List Site), xs.mapM (DashItem.check (.ofOptions o)) =
      (xs.map (·.line)).mapM (DashItem.finding? (.ofOptions o)) := by
    intro xs
    rw [List.mapM_map]
    rfl
  show (do return (← d.classified.mapM (DashItem.finding? (.ofOptions o))).filterMap id) = _
  rw [SiteCheck.findings, h, map_line_sites, ← d.classified_eq]
  rfl

theorem FenceStyle.findingsFrom_eq (length : Int) (s : LineScan) (number : Nat) (blanks : Option Nat)
    (lines : List Text) :
    findingsFrom length s.fence number lines =
      (FenceStyle.check length).findings (sitesFrom s.fence blanks (classifyFrom s number lines)) := by
  induction lines generalizing s number blanks with
  | nil => rfl
  | cons line rest ih =>
    rw [sitesFrom_cons, SiteCheck.findings_cons, ← ih (s.next line)]
    have hrole := (settled_isFenced s (number + 1) line rest .fence rfl).trans (s.role_eq_fence_iff line)
    rw [findingsFrom]
    simp only [FenceStyle.check, hrole]
    by_cases hf : (s.fence.step line).2 = true
    · rw [if_pos hf, if_pos hf]; rfl
    · rw [if_neg hf, if_neg hf]; rfl

theorem fenceRule_check (d : Document) (o : Options) :
    fenceRule.check d o = (FenceStyle.check (o.int "fence_length" 4)).findings (sites d.lines) :=
  FenceStyle.findingsFrom_eq _ .start 1 none d.lines

theorem BlankLine.findingsFrom_eq (style : Style) (s : FenceState) (blanks : Option Nat) (doc : List Line) :
    findingsFrom style blanks doc = (BlankLine.check style).findings (sitesFrom s blanks doc) := by
  induction doc generalizing s blanks with
  | nil => rfl
  | cons line rest ih =>
    rw [sitesFrom, SiteCheck.findings_cons, ← ih]
    cases blanks <;> rfl

theorem blankLineRule_check (d : Document) (o : Options) :
    blankLineRule.check d o = (BlankLine.check (.ofOptions o)).findings (sites d.lines) := by
  show BlankLine.findingsFrom (.ofOptions o) none d.classified = _
  rw [BlankLine.findingsFrom_eq _ .outside, d.classified_eq]
  rfl

end MarkdownStyle
