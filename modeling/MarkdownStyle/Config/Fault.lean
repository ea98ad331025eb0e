/-
What can be wrong with a configuration, and the words for it.
-/
import MarkdownStyle.Value.Literal

namespace MarkdownStyle

inductive ConfigFault where
  | unknownRule (key : String)
  | unknownOption (option : Value) (rule : String)
  /-- An option has a value of another kind than its default. -/
  | wrongKind (option : Value) (rule : String) (expected : Value)
  | belowMinimum (option : Value) (rule : String) (minimum : Int)
  | keyNotString (key : Value)
  /-- The state of rules that are not mentioned is neither true nor false. -/
  | defaultNotBoolean
  /-- The setting of a rule is neither a state nor a mapping of options. -/
  | badSetting (rule : String)
  /-- A file could not be read, with the reason. -/
  | unreadable (path reason : String)
  | notYaml (path : String)
  | notMapping (path : String)
  /-- The loader of a file stopped with an error of its own. Nobody handles it, so it ends the run. -/
  | loaderFailed (message : String)

def ConfigFault.message : ConfigFault → String
  | unknownRule key => "Unknown rule: " ++ key
  | unknownOption option rule => "Unknown option '" ++ option.text ++ "' for rule " ++ rule
  | wrongKind option rule expected =>
    "Option '" ++ option.text ++ "' for rule " ++ rule ++ " must be of type " ++ expected.kindName
  | belowMinimum option rule minimum =>
    "Option '" ++ option.text ++ "' for rule " ++ rule ++ " must be at least " ++ toString minimum
  | keyNotString key => "Config keys must be strings, got " ++ key.literal
  | defaultNotBoolean => "Config key 'default' must be true or false"
  | badSetting rule => "Setting for rule " ++ rule ++ " must be a boolean or a mapping of options"
  | unreadable path reason => "Could not read config " ++ path ++ ": " ++ reason
  | notYaml path => "Invalid YAML in config " ++ path
  | notMapping path => "Config " ++ path ++ " must be a mapping of rule names to settings"
  | loaderFailed message => message

end MarkdownStyle
