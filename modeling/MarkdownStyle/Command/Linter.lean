/-
The linter of a command, set up from a configuration file, and what happens if that fails. Loading YAML
and escaping console markup are left to other packages: a command works with any of them.
-/
import MarkdownStyle.Config.File
import MarkdownStyle.Console.Output
import MarkdownStyle.Linter

namespace MarkdownStyle

/-- What commands take from other packages. -/
structure Packages where
  /-- Loads a YAML text. -/
  load : Text → Loaded
  /-- The markup that shows a text. -/
  escape : Text → Text

/-- What is known of an escape for markup, in which a tag is a style in brackets and a backslash in front
of a tag takes its meaning away. -/
structure EscapesMarkup (escape : Text → Text) : Prop where
  /-- A text in which nothing could be taken for markup is its own markup. -/
  plain : ∀ t, '[' ∉ t → '\\' ∉ t → escape t = t
  /-- A text is changed by backslashes only. -/
  unchanged : ∀ t, '\\' ∉ escape t → escape t = t
  /-- A tag at the start of a text comes behind a backslash. -/
  tagged : ∀ style rest, style ≠ [] → (∀ c ∈ style, 'a' ≤ c ∧ c ≤ 'z') →
    (escape ('[' :: (style ++ ']' :: rest))).head? = some '\\'

/-- The outcome of a run: what a command leaves behind, and the tree. -/
structure Outcome extends Printed where
  tree : FileTree

namespace Command

variable (k : Packages)

/-! ## Errors -/

/-- An error message and status 2. -/
def refusal (message : Text) : Printed := ⟨2, [.line ("[red]Error:[/red] ".toList ++ message)]⟩

/-- The end of a run without a linter. An error that nobody handles ends it as such, with status 1. -/
def configRefusal (e : ConfigFault) : Printed :=
  match e with
  | .loaderFailed _ => ⟨1, []⟩
  | e => refusal (k.escape e.message.toList)

def fileRefusal (p : Path) (e : FileError) : Printed :=
  refusal ("Could not read ".toList ++ k.escape p.toString.toList ++ ": ".toList ++
    k.escape (e.message p.toString).toList)

/-! ## Linters -/

/-- The configuration from a file, or from the nearest one if none is given. -/
def configOf (t : FileTree) (config : Option Path) : Except ConfigFault Mapping :=
  match config with
  | some p => loadConfig k.load t p
  | none =>
    match nearestConfig? t ⟨.current, []⟩ with
    | some place =>
      loadConfigAs k.load t ⟨.root, place⟩ (t.label ++ "/" ++ String.intercalate "/" place)
    | none => .ok []

def linterOf (t : FileTree) (config : Option Path) : Except ConfigFault Linter := do
  Linter.make (← configOf k t config) none

/-- Switches rules on and then others off. -/
def switched (l : Linter) (enable disable : List String) : Except ConfigFault Linter := do
  let l ← enable.foldlM Linter.enable l
  disable.foldlM Linter.disable l

/-! ## Listing rules -/

def enabledMarkup (b : Bool) : Text := (if b then "[green]yes[/green]" else "[red]no[/red]").toList

/-- Options with their values. -/
def optionsText (o : Options) : Text :=
  (String.intercalate ", " (o.map fun (key, value) => key.text ++ "=" ++ value.text)).toList

def ruleRow (rule : Rule) (setting : Setting) : List Text :=
  let options := k.escape (optionsText setting.options)
  [rule.id.toList, rule.name.toList, (String.intercalate ", " rule.tags).toList,
    (if rule.fixable then "yes" else "no").toList, enabledMarkup setting.enabled,
    if options.isEmpty then ['-'] else options]

def runRules (t : FileTree) (config : Option Path) : Printed :=
  match linterOf k t config with
  | .error e => configRefusal k e
  | .ok l =>
    let header := ["Rule ID".toList, "Name".toList, "Tags".toList, "Fixable".toList, "Enabled".toList,
      "Options".toList]
    ⟨0, [.table (some "Lint Rules".toList) (header :: l.rules.map fun (r, s) => ruleRow k r s)]⟩

end Command

end MarkdownStyle
