/-
Options of a rule as a user gives them, laid over the defaults. An option must be known, of the
kind of its default, and not below its minimum.
-/
import MarkdownStyle.Config.Fault
import MarkdownStyle.Rule.Basic

namespace MarkdownStyle

/-- Whether a value may stand where a default stands. A list must hold strings only. -/
def Value.fits (default value : Value) : Bool :=
  match default, value with
  | null, null | bool _, bool _ | int _, int _ | float _, float _ | str _, str _ | map _, map _ => true
  | list _, list items => items.all fun
    | str _ => true
    | _ => false
  | _, _ => false

/-- Whether a value is a number below an integer. -/
def Value.isBelow (value : Value) (minimum : Int) : Bool :=
  match value with
  | float x => compareFloatInt x minimum == some .lt
  | _ => value.integer?.any (· < minimum)

namespace Rule

/-- The minimum of an option. -/
def minimum? (r : Rule) (key : Value) : Option Int :=
  match key with
  | .str s => r.minimums.lookup s
  | _ => none

/-- Lays one option over the options so far. -/
def layOption (r : Rule) (resolved : Options) (entry : Value × Value) : Except ConfigFault Options :=
  let (key, value) := entry
  match Mapping.get? r.defaults key with
  | none => .error (.unknownOption key r.name)
  | some default =>
    if !default.fits value then .error (.wrongKind key r.name default)
    else
      match r.minimum? key with
      | some minimum =>
        if value.isBelow minimum then .error (.belowMinimum key r.name minimum)
        else .ok (Mapping.insert resolved key value)
      | none => .ok (Mapping.insert resolved key value)

/-- The defaults of the rule with a user's options over them. The first fault counts. -/
def effectiveOptions (r : Rule) (options : Mapping) : Except ConfigFault Options :=
  options.foldlM r.layOption r.defaults

end Rule

end MarkdownStyle
