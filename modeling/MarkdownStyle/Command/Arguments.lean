/-
The arguments of the command line: options in front of the command, then the command with its own
options and paths in any order. Whatever is wrong with them, the program prints nothing and ends
with status 2.
-/
import MarkdownStyle.Command.Check
import MarkdownStyle.Text.Digit

namespace MarkdownStyle

inductive UsageError where
  | noSuchOption (name : String)
  | noSuchCommand (name : String)
  | missingCommand
  | missingArgument
  | missingValue (option : String)
  | unexpectedValue (option : String)
  | unexpectedArgument (argument : String)
  | noSuchPath (path : String)
  | isDirectory (path : String)
  | notInRange (level : String)
deriving DecidableEq

/-- What the program is asked to do. -/
inductive Command where
  | check (options : CheckOptions)
  | rules (config : Option Path)
  | blocks (path : Path)
  | outline (path : Path) (level : Int)
  | version
  | help

/-! ## Options and paths -/

/-- The options that a command knows: those that stand alone, and those with a value. -/
structure OptionNames where
  flags : List String
  valued : List String

/-- Arguments sorted into options, in order, and all others. -/
structure SortedArguments where
  flags : List String
  values : List (String × String)
  others : List String

namespace SortedArguments

/-- The last value of an option. -/
def value? (s : SortedArguments) (name : String) : Option String :=
  (s.values.reverse.find? (·.1 == name)).map (·.2)

/-- All values of an option. -/
def valuesOf (s : SortedArguments) (name : String) : List String :=
  (s.values.filter (·.1 == name)).map (·.2)

def addFlag (s : SortedArguments) (name : String) : SortedArguments :=
  { s with flags := name :: s.flags }

def addValue (s : SortedArguments) (name value : String) : SortedArguments :=
  { s with values := (name, value) :: s.values }

def addOther (s : SortedArguments) (argument : String) : SortedArguments :=
  { s with others := argument :: s.others }

end SortedArguments

/-- The name of an option and the value behind an equals sign, if there is one. -/
def splitOption (argument : String) : String × Option String :=
  let (name, rest) := Text.span (· != '=') argument.toList
  (String.ofList name, match rest with
    | [] => none
    | _ :: value => some (String.ofList value))

/-- Sorts arguments. A double dash ends the options; a single dash is no option. -/
def sortArguments (names : OptionNames) : List String → Except UsageError SortedArguments
  | [] => .ok ⟨[], [], []⟩
  | argument :: rest =>
    if argument == "--" then .ok ⟨[], [], rest⟩
    else if argument.startsWith "-" && argument != "-" then
      match splitOption argument with
      | (name, none) =>
        if names.flags.contains name then (sortArguments names rest).map (·.addFlag name)
        else if names.valued.contains name then
          match rest with
          | [] => .error (.missingValue name)
          | value :: rest => (sortArguments names rest).map (·.addValue name value)
        else .error (.noSuchOption name)
      | (name, some value) =>
        if names.flags.contains name then .error (.unexpectedValue name)
        else if names.valued.contains name then (sortArguments names rest).map (·.addValue name value)
        else .error (.noSuchOption name)
    else (sortArguments names rest).map (·.addOther argument)

/-- A path that must lead somewhere, and unless `directories` is set to a file. -/
def existingPath (t : FileTree) (directories : Bool) (s : String) : Except UsageError Path :=
  match t.written? s with
  | .error _ => .error (.noSuchPath s)
  | .ok e => if e.isDirectory && !directories then .error (.isDirectory s) else .ok (.ofString s)

/-- A path if one is given. -/
def optionalPath (t : FileTree) (s : Option String) : Except UsageError (Option Path) :=
  match s with
  | none => .ok none
  | some s => (existingPath t false s).map some

/-- Digits of any script with single bars between them. -/
def barredDigits? (t : Text) : Option Nat :=
  let doubled := t.zip (t.drop 1) |>.any fun (a, b) => a == '_' && b == '_'
  let outside := t.head? == some '_' || t.getLast? == some '_'
  match (t.filter (· != '_')).mapM Text.digit? with
  | none | some [] => none
  | some digits => if doubled || outside then none else some (digits.foldl (fun n d => 10 * n + d) 0)

/-- An integer with an optional sign and whitespace around it. -/
def integerOf? (s : String) : Option Int :=
  match Text.trim s.toList with
  | '-' :: digits => (barredDigits? digits).map fun n => -(n : Int)
  | '+' :: digits => (barredDigits? digits).map fun n => (n : Int)
  | digits => (barredDigits? digits).map fun n => (n : Int)

/-- A heading level from one to six. -/
def levelOf (s : String) : Except UsageError Int :=
  match integerOf? s with
  | some n => if 1 ≤ n && n ≤ 6 then .ok n else .error (.notInRange s)
  | none => .error (.notInRange s)

/-- The only one of some arguments. -/
def single (arguments : List String) : Except UsageError String :=
  match arguments with
  | [] => .error .missingArgument
  | [argument] => .ok argument
  | _ :: extra :: _ => .error (.unexpectedArgument extra)

/-! ## Commands -/

/-- The name of the option that asks for help. -/
def helpFlag : String := "--help"

namespace Command

def checkOf (t : FileTree) (arguments : List String) : Except UsageError Command := do
  let names : OptionNames := ⟨["--fix", "--json", helpFlag], ["--config", "--enable", "--disable"]⟩
  let s ← sortArguments names arguments
  if s.flags.contains helpFlag then return help
  else
    let paths ← s.others.mapM (existingPath t true)
    let config ← optionalPath t (s.value? "--config")
    return check ⟨paths, config, s.flags.contains "--fix", s.flags.contains "--json",
      s.valuesOf "--enable", s.valuesOf "--disable"⟩

def rulesOf (t : FileTree) (arguments : List String) : Except UsageError Command := do
  let s ← sortArguments ⟨[helpFlag], ["--config"]⟩ arguments
  if s.flags.contains helpFlag then return help
  else
    match s.others with
    | [] => return rules (← optionalPath t (s.value? "--config"))
    | extra :: _ => .error (.unexpectedArgument extra)

def blocksOf (t : FileTree) (arguments : List String) : Except UsageError Command := do
  let s ← sortArguments ⟨[helpFlag], []⟩ arguments
  if s.flags.contains helpFlag then return help
  else return blocks (← existingPath t false (← single s.others))

def outlineOf (t : FileTree) (arguments : List String) : Except UsageError Command := do
  let s ← sortArguments ⟨[helpFlag], ["--level"]⟩ arguments
  if s.flags.contains helpFlag then return help
  else
    let path ← existingPath t false (← single s.others)
    let level ← levelOf ((s.value? "--level").getD "2")
    return outline path level

/-- A command by name. -/
def named (t : FileTree) (name : String) (arguments : List String) : Except UsageError Command :=
  if name == "check" then checkOf t arguments
  else if name == "rules" then rulesOf t arguments
  else if name == "blocks" then blocksOf t arguments
  else if name == "outline" then outlineOf t arguments
  else .error (.noSuchCommand name)

/-- The options in front of a command: the version or help that they ask for, and the rest of the
arguments. The letter for more messages may be repeated. -/
def leading (asked : Option Command) : List String → Except UsageError (Option Command × List String)
  | [] => .ok (asked, [])
  | argument :: rest =>
    if argument == "--" then .ok (asked, rest)
    else if argument == "--version" then leading (asked <|> some version) rest
    else if argument == helpFlag then leading (asked <|> some help) rest
    else if argument == "--verbose" then leading asked rest
    else if argument.startsWith "-" && argument != "-" then
      if (argument.toList.drop 1).all (· == 'v') then leading asked rest
      else .error (.noSuchOption argument)
    else .ok (asked, argument :: rest)

/-- What the arguments ask for. -/
def ofArguments (t : FileTree) (arguments : List String) : Except UsageError Command := do
  if arguments.isEmpty then return help
  else
    match ← leading none arguments with
    | (some asked, _) => return asked
    | (none, []) => .error .missingCommand
    | (none, name :: rest) => named t name rest

end Command

end MarkdownStyle
