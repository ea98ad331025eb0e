/-
The house style on its own, over any registry. It names the built-in rules and has options for two of
them, and it is read like what a user writes: its names must stand for registered rules, and the rules
that they stand for must take the options. So a registry has settings without any configuration exactly
if it passes for one of the built-in rules, whichever rules it holds besides.
-/
import MarkdownStyle.Proofs.Config.Layer
import MarkdownStyle.Proofs.Linter.Session

namespace MarkdownStyle

namespace Registry

/-! ## The specification -/

/-- Every key of the house style stands for a rule. -/
def Styled (g : Registry) : Prop :=
  ∀ (key : String) (value : Value), (Value.str key, value) ∈ houseStyle → ∃ rule, g.Resolves key rule

/-- What the house style says last about a name, under the keys that stand for the rule of the name. -/
def houseValue (g : Registry) (name : String) : Option Value :=
  houseStyle.lastUnder fun key => (g.find? key).any (·.name == name)

/-- The options that the house style has for a rule. A rule that bears the key for all other rules as its
name speaks for those that the house style does not mention. -/
def houseOptions (g : Registry) (r : Rule) : Mapping :=
  match (g.houseValue r.name).or (g.houseValue defaultKey) with
  | some (.map entries) => entries
  | _ => []

/-! ## Entries of the house style -/

variable {g : Registry} {layer : Layer}

/-- The house style holds names of rules, each with a state or with options. -/
theorem entry_of_mem_houseStyle {e : Value × Value} (h : e ∈ houseStyle) :
    ∃ key, e.1 = .str key ∧ key ≠ defaultKey ∧ (e.2 = .bool true ∨ ∃ entries, e.2 = .map entries) := by
  simp only [houseStyle, List.mem_cons, List.not_mem_nil, or_false] at h
  rcases h with rfl | rfl | rfl | rfl | rfl <;> exact ⟨_, rfl, by decide, by simp⟩

theorem nameOf_str {key : String} (h : key ≠ defaultKey) (value : Value) :
    nameOf g (.str key, value) = (g.get key).map Rule.name := by
  unfold nameOf
  simp only
  rw [if_neg (by simpa using h)]

theorem layerOf_houseStyle_isOk : (layerOf g houseStyle).isOk = true ↔ g.Styled := by
  rw [layerOf_isOk]
  constructor
  · intro hnames key value he
    obtain ⟨key', hkey', hne, -⟩ := entry_of_mem_houseStyle he
    cases hkey'
    have hok := hnames _ he
    rw [nameOf_str hne, get] at hok
    cases hfind : g.find? key with
    | none => rw [hfind] at hok; cases hok
    | some rule => exact ⟨rule, find?_eq_some_iff.1 hfind⟩
  · rintro hstyled ⟨k, value⟩ he
    obtain ⟨key, hkey, hne, -⟩ := entry_of_mem_houseStyle he
    cases hkey
    obtain ⟨rule, hrule⟩ := hstyled key value he
    rw [nameOf_str hne, get, find?_eq_some_iff.2 hrule]
    rfl

theorem lookup_houseStyle (h : layerOf g houseStyle = .ok layer) (name : String) :
    layer.lookup name = g.houseValue name := by
  refine lookup_layerOf h fun e he n hn => ?_
  obtain ⟨k, value⟩ := e
  obtain ⟨key, hkey, hne, -⟩ := entry_of_mem_houseStyle he
  cases hkey
  rw [nameOf_str hne, get] at hn
  cases hfind : g.find? key with
  | none => rw [hfind] at hn; cases hn
  | some rule =>
    rw [hfind] at hn
    cases hn
    simp [Value.isString, hfind]

theorem houseValue_eq {name : String} {value : Value} (h : g.houseValue name = some value) :
    value = .bool true ∨ ∃ entries, value = .map entries := by
  obtain ⟨key, -, he⟩ := Mapping.mem_of_lastUnder h
  obtain ⟨-, -, -, hvalue⟩ := entry_of_mem_houseStyle he
  exact hvalue

/-- A rule is on under the house style, with the options that it has there. -/
theorem setting_houseValue (g : Registry) (r : Rule) :
    r.setting ((g.houseValue r.name).getD ((g.houseValue defaultKey).getD (.bool true))) =
      (r.effectiveOptions (g.houseOptions r)).map (⟨true, ·⟩) := by
  rw [← Option.getD_or, houseOptions]
  cases hvalue : (g.houseValue r.name).or (g.houseValue defaultKey) with
  | none => rfl
  | some value =>
    have hof : value = .bool true ∨ ∃ entries, value = .map entries := by
      rcases Option.or_eq_some_iff.1 hvalue with h | ⟨-, h⟩
      · exact houseValue_eq h
      · exact houseValue_eq h
    rcases hof with rfl | ⟨entries, rfl⟩ <;> rfl

/-! ## Settings without a configuration -/

theorem settingsFor_nil (g : Registry) : settingsFor g [] = layerOf g houseStyle >>= settingsOf g.rules := by
  show (layerOf g houseStyle >>= fun base => pure (base.coveredBy [])) >>= settingsOf g.rules = _
  cases layerOf g houseStyle <;> rfl

/-- Once the house style is read, each rule is set by its own part of it. -/
theorem settingsFor_nil_of_styled (h : g.Styled) : settingsFor g [] =
    g.rules.mapM fun r => (r.effectiveOptions (g.houseOptions r)).map (⟨true, ·⟩) := by
  cases hlayer : layerOf g houseStyle with
  | error fault =>
    have hok := layerOf_houseStyle_isOk.2 h
    rw [hlayer] at hok
    cases hok
  | ok layer =>
    rw [settingsFor_nil, hlayer]
    show settingsOf g.rules layer = _
    refine mapM_congr fun r _ => ?_
    rw [lookup_houseStyle hlayer, lookup_houseStyle hlayer, setting_houseValue]

theorem styled_of_settingsFor_nil {settings : List Setting} (h : settingsFor g [] = .ok settings) : g.Styled := by
  rw [settingsFor_nil] at h
  rw [← layerOf_houseStyle_isOk]
  cases hlayer : layerOf g houseStyle with
  | error fault => rw [hlayer] at h; cases h
  | ok layer => rfl

theorem settingsFor_nil_eq_ok_iff {settings : List Setting} : settingsFor g [] = .ok settings ↔
    g.Styled ∧ List.Forall₂ (fun r s => s.enabled = true ∧ r.effectiveOptions (g.houseOptions r) = .ok s.options)
      g.rules settings := by
  have hone : ∀ (r : Rule) (s : Setting), (r.effectiveOptions (g.houseOptions r)).map (⟨true, ·⟩) = .ok s ↔
      s.enabled = true ∧ r.effectiveOptions (g.houseOptions r) = .ok s.options := by
    rintro r ⟨enabled, options⟩
    cases r.effectiveOptions (g.houseOptions r) with
    | error fault => exact ⟨nofun, fun h => nomatch h.2⟩
    | ok o => simp [Except.map, eq_comm]
  constructor
  · intro h
    have hstyled := styled_of_settingsFor_nil h
    rw [settingsFor_nil_of_styled hstyled] at h
    exact ⟨hstyled, (forall₂_of_mapM h).imp fun r s hs => (hone r s).1 hs⟩
  · rintro ⟨hstyled, hall⟩
    rw [settingsFor_nil_of_styled hstyled]
    exact mapM_of_forall₂ (hall.imp fun r s hs => (hone r s).2 hs)

/-! ## Registries with all built-in rules -/

theorem name_of_mem_houseStyle {key : String} {value : Value} (he : (Value.str key, value) ∈ houseStyle) :
    ∃ r ∈ builtin.rules, r.name = key := by
  have hall : ∀ e ∈ houseStyle, ∃ r ∈ builtin.rules, e.1 = .str r.name := by
    rw [builtin_rules]
    simp only [houseStyle, List.forall_mem_cons]
    simp [dashItemRule, fenceRule, definitionPlaceRule, blankLineRule, sentenceCaseRule]
  obtain ⟨r, hr, hkey⟩ := hall _ he
  exact ⟨r, hr, (Value.str.inj hkey).symm⟩

section

variable (h : ∀ r ∈ builtin.rules, r ∈ g.rules)

include h

/-- The names in the house style are found as names, before any id is looked at. -/
theorem find?_of_mem_houseStyle {key : String} {value : Value} (he : (Value.str key, value) ∈ houseStyle) :
    ∃ rule, g.find? key = some rule ∧ rule.name = key := by
  obtain ⟨r, hr, hname⟩ := name_of_mem_houseStyle he
  exact ⟨r, find?_of_name (h r hr) hname, hname⟩

theorem styled_of_builtin : g.Styled := by
  intro key value he
  obtain ⟨rule, hrule, -⟩ := find?_of_mem_houseStyle h he
  exact ⟨rule, find?_eq_some_iff.1 hrule⟩

theorem houseValue_of_builtin (name : String) : g.houseValue name = houseStyle.lastUnder (· == name) := by
  refine Mapping.lastUnder_congr fun key value he => ?_
  obtain ⟨rule, hrule, hname⟩ := find?_of_mem_houseStyle h he
  rw [hrule, Option.any_some, hname]

/-- The house style changes no default of a built-in rule, and it has nothing to say about other rules. -/
theorem houseOptions_of_builtin {r : Rule} (hr : r ∈ g.rules) :
    r.effectiveOptions (g.houseOptions r) = .ok r.defaults := by
  have hdefault : houseStyle.lastUnder (· == defaultKey) = none := by rfl
  rw [houseOptions, houseValue_of_builtin h, houseValue_of_builtin h, hdefault, Option.or_none]
  by_cases hbuiltin : ∃ b ∈ builtin.rules, r.name = b.name
  · obtain ⟨b, hb, hname⟩ := hbuiltin
    rw [eq_of_name (h b hb) hr hname]
    rw [builtin_rules] at hb
    simp only [List.mem_cons, List.not_mem_nil, or_false] at hb
    rcases hb with rfl | rfl | rfl | rfl | rfl <;> rfl
  · have hnone : houseStyle.lastUnder (· == r.name) = none := by
      rw [Option.eq_none_iff_forall_ne_some]
      intro value hvalue
      obtain ⟨key, hkey, he⟩ := Mapping.mem_of_lastUnder hvalue
      obtain ⟨b, hb, hname⟩ := name_of_mem_houseStyle he
      exact hbuiltin ⟨b, hb, (hname.trans (beq_iff_eq.1 hkey)).symm⟩
    rw [hnone]
    rfl

end

/-- Without a configuration a registry has settings exactly if every key of the house style stands for one of
its rules and each rule takes the options that the house style has for it: one for each rule, in order, with
the rule on. These are the defaults of the rules exactly if those options change none of them, and so they
are whenever all built-in rules are there. -/
theorem settingsFor_nil_exact (g : Registry) :
    (∀ settings, settingsFor g [] = .ok settings ↔
        g.Styled ∧ List.Forall₂ (fun r s => s.enabled = true ∧ r.effectiveOptions (g.houseOptions r) = .ok s.options)
          g.rules settings) ∧
      (settingsFor g [] = .ok (g.rules.map fun r => ⟨true, r.defaults⟩) ↔
        g.Styled ∧ ∀ r ∈ g.rules, r.effectiveOptions (g.houseOptions r) = .ok r.defaults) ∧
      ((∀ r ∈ builtin.rules, r ∈ g.rules) → settingsFor g [] = .ok (g.rules.map fun r => ⟨true, r.defaults⟩)) := by
  have hdefaults : settingsFor g [] = .ok (g.rules.map fun r => ⟨true, r.defaults⟩) ↔
      g.Styled ∧ ∀ r ∈ g.rules, r.effectiveOptions (g.houseOptions r) = .ok r.defaults := by
    rw [settingsFor_nil_eq_ok_iff, List.forall₂_map_right_iff, List.forall₂_same]
    simp only [true_and]
  exact ⟨fun settings => settingsFor_nil_eq_ok_iff, hdefaults, fun h =>
    hdefaults.2 ⟨styled_of_builtin h, fun r hr => houseOptions_of_builtin h hr⟩⟩

theorem settingsFor_nil_of_namesake :
    settingsFor (builtin.add namesakeRule) [] =
      .ok ((builtin.add namesakeRule).rules.map fun r => ⟨true, r.defaults⟩) :=
  (settingsFor_nil_exact (builtin.add namesakeRule)).2.2 fun r hr => by
    have hrules : (builtin.add namesakeRule).rules = builtin.rules ++ [namesakeRule] := rfl
    rw [hrules]
    exact List.mem_append_left _ hr

/-- A rule without options in the place of the one for fences. -/
def ownFenceRule : Rule := { namesakeRule with id := "MY002", name := "fenced-code-fence-length" }

/-- A registry without the built-in rules is refused for a name that the house style brings in, and one
with another rule in the place of a built-in one for an option. -/
theorem settingsFor_nil_ne :
    settingsFor (ofList [namesakeRule]) [] = .error (.unknownRule "list-item-marker-space") ∧
      settingsFor (builtin.add ownFenceRule) [] =
        .error (.unknownOption (.str "fence_length") "fenced-code-fence-length") := ⟨rfl, rfl⟩

end Registry

end MarkdownStyle
