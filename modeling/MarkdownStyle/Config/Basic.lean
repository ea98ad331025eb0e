/-
Configurations: which rules run and under which options. A configuration maps rule names or ids to
a state or to options and may name the state of all other rules; it is laid over the house style and
resolved into one setting for every registered rule.
-/
import MarkdownStyle.Rule.Options
import MarkdownStyle.Rule.Registry

namespace MarkdownStyle

/-! ## Layers -/

/-- A configuration by rule name, in order. -/
abbrev Layer := List (String × Value)

namespace Layer

/-- Gives a name a value: in its old place, or at the end if it is new. -/
def insert (l : Layer) (name : String) (value : Value) : Layer :=
  match l with
  | [] => [(name, value)]
  | (n, v) :: rest =>
    if n == name then (name, value) :: rest else (n, v) :: Layer.insert rest name value

/-- A layer with another one over it. -/
def coveredBy (base above : Layer) : Layer := above.foldl (fun l e => l.insert e.1 e.2) base

end Layer

/-- The key for the state of rules that a configuration does not mention. -/
def defaultKey : String := "default"

/-- The name that a key of a configuration stands for. -/
def nameOf (g : Registry) (entry : Value × Value) : Except ConfigFault String :=
  match entry.1 with
  | .str key =>
    if key == defaultKey then
      match entry.2 with
      | .bool _ => .ok defaultKey
      | _ => .error .defaultNotBoolean
    else (g.get key).map (·.name)
  | key => .error (.keyNotString key)

/-- The configuration by rule names. The last value under any of the keys of a rule counts. -/
def layerOf (g : Registry) (config : Mapping) : Except ConfigFault Layer :=
  config.foldlM (fun layer entry => (nameOf g entry).map fun name => layer.insert name entry.2) []

/-- Lays a configuration over another one, which counts for nothing if the upper one turns all
other rules off. -/
def layered (g : Registry) (base above : Mapping) : Except ConfigFault Layer := do
  let upper ← layerOf g above
  match upper.lookup defaultKey with
  | some (.bool false) => return upper
  | _ => return (← layerOf g base).coveredBy upper

/-! ## Settings -/

/-- The recommended configuration: every rule, under the options of the house style. -/
def houseStyle : Mapping :=
  [(.str "list-item-marker-space", .bool true),
    (.str "fenced-code-fence-length", .map [(.str "fence_length", .int 4)]),
    (.str "reference-link-section-placement", .bool true),
    (.str "setext-heading-blank-lines", .map [(.str "lines_before_h2", .int 2)]),
    (.str "heading-sentence-case", .bool true)]

/-- The setting of a rule. -/
structure Setting where
  enabled : Bool
  options : Options

/-- The setting that a value of a configuration stands for. -/
def Rule.setting (r : Rule) (value : Value) : Except ConfigFault Setting :=
  match value with
  | .bool enabled => (r.effectiveOptions []).map fun options => ⟨enabled, options⟩
  | .map entries => (r.effectiveOptions entries).map fun options => ⟨true, options⟩
  | _ => .error (.badSetting r.name)

/-- The setting of each rule under a layer. -/
def settingsOf (rules : List Rule) (layer : Layer) : Except ConfigFault (List Setting) :=
  let unmentioned := (layer.lookup defaultKey).getD (.bool true)
  rules.mapM fun rule => rule.setting ((layer.lookup rule.name).getD unmentioned)

/-- The settings of all registered rules, in order, under a configuration over the house style. -/
def settingsFor (g : Registry) (config : Mapping) : Except ConfigFault (List Setting) := do
  settingsOf g.rules (← layered g houseStyle config)

end MarkdownStyle
