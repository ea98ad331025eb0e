/-
Running what the arguments ask for, with the loader of YAML and the console of this library. A command
answers with an exit status, with what the console shows and with the tree as it leaves it.
-/
import MarkdownStyle.Command.Arguments
import MarkdownStyle.Command.Structure
import MarkdownStyle.Console.Show
import MarkdownStyle.Yaml.Read

namespace MarkdownStyle

/-- The loader and the escape of this library. -/
def Packages.own : Packages := ⟨Yaml.load, Markup.escape⟩

/-- The configuration in a file. -/
def readConfig (t : FileTree) (p : Path) : Except ConfigFault Mapping := loadConfig Packages.own.load t p

/-- The outcome as the console shows it. -/
def Outcome.shown (o : Outcome) : Outcome := { o with output := o.output.flatMap Output.shown }

namespace Command

def versionLine : Text := "mdlint, version 0.3.0".toList

def run (k : Packages) (t : FileTree) : Command → Outcome
  | check options => runCheck k t options
  | rules config => ⟨runRules k t config, t⟩
  | blocks path => ⟨runBlocks k t path, t⟩
  | outline path level => ⟨runOutline k t path level, t⟩
  | version => ⟨⟨0, [.line versionLine]⟩, t⟩
  | help => ⟨⟨0, []⟩, t⟩

/-- Runs what the arguments ask for. -/
def runArguments (t : FileTree) (arguments : List String) : Outcome :=
  match ofArguments t arguments with
  | .ok command => (command.run .own t).shown
  | .error _ => ⟨⟨2, []⟩, t⟩

end Command

end MarkdownStyle
