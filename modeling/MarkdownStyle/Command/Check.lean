/-
Checking files. The files are linted or fixed one after the other; only fixing writes to the tree.
-/
import MarkdownStyle.Command.Linter
import MarkdownStyle.Files.Collect
import MarkdownStyle.Files.Lint

namespace MarkdownStyle

/-- The options of a check. -/
structure CheckOptions where
  paths : List Path
  config : Option Path
  fix : Bool
  json : Bool
  enable : List String
  disable : List String

/-- The files that the paths of a check stand for; without a path, those of the current directory. -/
def CheckOptions.files (c : CheckOptions) (t : FileTree) : List Path :=
  collect t (if c.paths.isEmpty then [⟨.current, []⟩] else c.paths)

/-- The style of a severity on the console. -/
def Severity.style : Severity → String
  | error => "red"
  | warning => "yellow"

namespace Command

/-- The tree after files were linted or fixed one by one, and their reports. At a file that cannot
be read the run stops; what was fixed until then stays fixed. -/
def checkFiles (l : Linter) (fix : Bool) (t : FileTree) :
    List Path → FileTree × Except (Path × FileError) (List Report)
  | [] => (t, .ok [])
  | p :: rest =>
    let step := if fix then l.fixAt t p else (l.lintAt t p).map fun report => (t, report)
    match step with
    | .error e => (t, .error (p, e))
    | .ok (t, report) =>
      let (t, reports) := checkFiles l fix t rest
      (t, reports.map (report :: ·))

variable (k : Packages)

/-- A text in a style. -/
def styled (style text : String) : Text :=
  ("[" ++ style ++ "]" ++ text ++ "[/" ++ style ++ "]").toList

def issueRow (i : Issue) : List Text :=
  [(toString i.line).toList, (i.ruleId ++ "/" ++ i.ruleName).toList,
    styled i.severity.style i.severity.name, k.escape i.detail.toList]

/-- The path and the table of issues of a report that has any. -/
def reportOutput (r : Report) : List Output :=
  if r.isClean then []
  else
    let header := ["Line".toList, "Rule".toList, "Severity".toList, "Detail".toList]
    [.line ("\n[bold]".toList ++ k.escape r.path.toList ++ "[/bold]".toList),
      .table none (header :: r.issues.map (issueRow k))]

/-- The line that sums reports up. -/
def summary (rs : List Report) : Text :=
  let total (count : Report → Nat) : Nat := rs.foldl (fun n r => n + count r) 0
  let fixed := total (·.removed)
  let errors := total (·.count .error)
  let warnings := total (·.count .warning)
  let part (style name : String) (count : Nat) : List Text :=
    if 0 < count then [styled style (name ++ ": " ++ toString count)] else []
  let clean : List Text :=
    if errors = 0 && warnings = 0 then
      [styled "green" ("No issues found in " ++ toString rs.length ++ " file(s)")]
    else []
  Text.join [' '] (part "green" "Fixed" fixed ++ part "red" "Errors" errors ++
    part "yellow" "Warnings" warnings ++ clean)

def reportsOutput (rs : List Report) : List Output :=
  rs.flatMap (reportOutput k) ++ [.line [], .line (summary rs)]

def runCheck (t : FileTree) (c : CheckOptions) : Outcome :=
  match linterOf k t c.config >>= fun l => switched l c.enable c.disable with
  | .error e => ⟨configRefusal k e, t⟩
  | .ok l =>
    match checkFiles l c.fix t (c.files t) with
    | (t, .error (p, e)) => ⟨fileRefusal k p e, t⟩
    | (t, .ok reports) =>
      let output := if c.json then [.reports reports] else reportsOutput k reports
      ⟨⟨if reports.all (·.isClean) then 0 else 1, output⟩, t⟩

end Command

end MarkdownStyle
