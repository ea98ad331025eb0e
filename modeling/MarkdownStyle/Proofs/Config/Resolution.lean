/-
What a configuration resolves to. The setting of a rule depends on the last value that it is given
under any of its keys, on the state of all other rules, and on the house style; a configuration is
refused exactly for a key that stands for nothing, a state of all others that is none, or a last value
that its rule cannot run under.
-/
import MarkdownStyle.Proofs.Config.Layer

namespace MarkdownStyle

/-! ## Values of rules -/

/-- A value that a rule can run under: a state, or a mapping of options that it takes. -/
inductive Rule.Accepts (r : Rule) : Value → Prop
  | state (b : Bool) : r.Accepts (.bool b)
  | options {entries : Mapping} : (∀ e ∈ entries, r.Takes e) → r.Accepts (.map entries)

theorem Rule.setting_map (r : Rule) (entries : Mapping) :
    r.setting (.map entries) = (r.effectiveOptions entries).map fun options => ⟨true, options⟩ := rfl

theorem Rule.setting_isOk {r : Rule} (h : r.Regular) {value : Value} :
    (r.setting value).isOk = true ↔ r.Accepts value := by
  cases value with
  | bool b => exact ⟨fun _ => .state b, fun _ => rfl⟩
  | map entries =>
    constructor
    · intro hok
      cases ho : r.effectiveOptions entries with
      | error fault => rw [setting_map, ho] at hok; cases hok
      | ok o => exact .options ((effectiveOptions_eq_ok_iff h).1 ho).1
    · intro haccepts
      cases haccepts with
      | options htakes =>
        rw [setting_map, (effectiveOptions_eq_ok_iff h).2 ⟨htakes, rfl⟩]
        rfl
  | _ => exact ⟨nofun, nofun⟩

/-! ## The specification -/

/-- What is wrong with a configuration that is refused. -/
inductive Mapping.Faulty (config : Mapping) : Prop
  | keyNotString {key value : Value} : (key, value) ∈ config → (∀ s, key ≠ .str s) → config.Faulty
  | defaultNotBoolean {value : Value} : (.str defaultKey, value) ∈ config → (∀ b, value ≠ .bool b) → config.Faulty
  | unknownRule {key : String} {value : Value} : (.str key, value) ∈ config → key ≠ defaultKey →
    (∀ r ∈ Registry.builtin.rules, ¬ r.KnownAs key) → config.Faulty
  /-- The last value for a rule is neither a state nor a mapping. -/
  | badSetting {r : Rule} {value : Value} : r ∈ Registry.builtin.rules → config.given r = some value →
    (∀ b, value ≠ .bool b) → (∀ entries, value ≠ .map entries) → config.Faulty
  /-- The last value for a rule has an option that is unknown, of another kind or too small. -/
  | badOption {r : Rule} {entries : Mapping} {e : Value × Value} : r ∈ Registry.builtin.rules →
    config.given r = some (.map entries) → e ∈ entries → ¬ r.Takes e → config.Faulty

/-- The setting of a rule under a configuration. A rule that is not mentioned is off where all others
are, and has its setting in the house style everywhere else. -/
inductive Mapping.Resolves (r : Rule) : Mapping → Setting → Prop
  | state {config : Mapping} {b : Bool} : config.given r = some (.bool b) → Resolves r config ⟨b, r.defaults⟩
  | options {config entries : Mapping} : config.given r = some (.map entries) →
    Resolves r config ⟨true, r.defaults.overlaid entries⟩
  | off {config : Mapping} : config.given r = none → config.others = some (.bool false) →
    Resolves r config ⟨false, r.defaults⟩
  | house {config : Mapping} {setting : Setting} : config.given r = none → config.others ≠ some (.bool false) →
    Resolves r houseStyle setting → Resolves r config setting

/-! ## Deciding values -/

/-- Whether a configuration turns the rules off that it does not mention. -/
def Mapping.turnsOff (config : Mapping) : Bool :=
  match config.others with
  | some (.bool false) => true
  | _ => false

/-- The value that decides the setting of a rule. -/
def Mapping.deciding (config : Mapping) (r : Rule) : Value :=
  (config.given r).getD <| if config.turnsOff then .bool false else (houseStyle.given r).getD (.bool true)

variable {config base : Mapping} {layer lower : Layer} {r : Rule} {setting : Setting} {value : Value}

theorem Mapping.turnsOff_iff : config.turnsOff = true ↔ config.others = some (.bool false) := by
  unfold turnsOff
  split
  · rename_i h
    simp [h]
  · rename_i hne
    simp only [Bool.false_eq_true, false_iff]
    exact hne

/-- What lies under a configuration counts unless the configuration turns the other rules off. -/
theorem layered_eq (h : layerOf .builtin config = .ok layer) (hbase : layerOf .builtin base = .ok lower) :
    layered .builtin base config = .ok (if config.turnsOff then layer else lower.coveredBy layer) := by
  unfold layered Mapping.turnsOff
  rw [h, hbase, ← lookup_default h]
  simp only [bind, Except.bind]
  cases List.lookup defaultKey layer with
  | none => rfl
  | some value =>
    cases value with
    | bool b => cases b <;> rfl
    | _ => rfl

/-- The house style mentions every rule, with a value that the rule accepts. -/
theorem houseStyle_given (hr : r ∈ Registry.builtin.rules) :
    ∃ value, houseStyle.given r = some value ∧ (r.setting value).isOk = true := by
  have hall : ∀ r ∈ Registry.builtin.rules, (houseStyle.given r).any (fun v => (r.setting v).isOk) = true := by
    decide +kernel
  obtain ⟨value, hgiven, hok⟩ := (Option.any_eq_true _ _).1 (hall r hr)
  exact ⟨value, hgiven, hok⟩

theorem settingsFor_of_error {fault : ConfigFault} (h : layerOf .builtin config = .error fault) :
    settingsFor .builtin config = .error fault := by
  unfold settingsFor layered
  rw [h]
  rfl

/-- Once all keys are read, each rule is set by the value that decides it. -/
theorem settingsFor_eq (h : layerOf .builtin config = .ok layer) :
    settingsFor .builtin config = Registry.builtin.rules.mapM fun r => r.setting (config.deciding r) := by
  obtain ⟨house, hhouse⟩ : ∃ house, layerOf .builtin houseStyle = .ok house := ⟨_, rfl⟩
  unfold settingsFor
  rw [layered_eq h hhouse]
  show settingsOf _ _ = _
  refine mapM_congr fun r hr => ?_
  congr 1
  unfold Mapping.deciding
  cases hoff : config.turnsOff with
  | true =>
    rw [if_pos rfl, if_pos rfl, lookup_rule hr h, lookup_default h, Mapping.turnsOff_iff.1 hoff]
    rfl
  | false =>
    obtain ⟨value, hgiven, -⟩ := houseStyle_given hr
    rw [if_neg Bool.false_ne_true, if_neg Bool.false_ne_true, Layer.lookup_coveredBy,
      Layer.lookup_reverse (nodup_layerOf h), lookup_rule hr h, lookup_rule hr hhouse, hgiven]
    cases config.given r <;> rfl

theorem settingsFor_isOk : (settingsFor .builtin config).isOk = true ↔
    (∀ e ∈ config, (nameOf .builtin e).isOk = true) ∧
      ∀ r ∈ Registry.builtin.rules, (r.setting (config.deciding r)).isOk = true := by
  rw [← layerOf_isOk, ← mapM_isOk]
  cases h : layerOf .builtin config with
  | error fault =>
    rw [settingsFor_of_error h]
    exact ⟨nofun, And.left⟩
  | ok layer =>
    rw [settingsFor_eq h]
    exact ⟨fun hok => ⟨rfl, hok⟩, And.right⟩

/-! ## Refusals -/

/-- An entry that stands for nothing. -/
theorem faulty_of_nameOf {e : Value × Value} (he : e ∈ config) (h : ¬ (nameOf .builtin e).isOk = true) :
    config.Faulty := by
  obtain ⟨key, value⟩ := e
  have hno : ∀ name, nameOf .builtin (key, value) ≠ .ok name := by
    intro name hname
    rw [hname] at h
    exact h rfl
  by_cases hkey : ∃ s, key = .str s
  · obtain ⟨s, rfl⟩ := hkey
    by_cases hs : s = defaultKey
    · subst hs
      exact .defaultNotBoolean he fun b hb => hno _ (nameOf_builtin_eq_ok_iff.2 (.inl ⟨rfl, ⟨b, hb⟩, rfl⟩))
    · exact .unknownRule he hs fun r hr hknown =>
        hno _ (nameOf_builtin_eq_ok_iff.2 (.inr ⟨s, rfl, r, hr, hknown, rfl⟩))
  · exact .keyNotString he fun s hs => hkey ⟨s, hs⟩

/-- A value that its rule cannot run under. It is the user's, since the house style has none. -/
theorem faulty_of_setting (hr : r ∈ Registry.builtin.rules) (h : ¬ (r.setting (config.deciding r)).isOk = true) :
    config.Faulty := by
  unfold Mapping.deciding at h
  cases hgiven : config.given r with
  | none =>
    obtain ⟨value, hhouse, hok⟩ := houseStyle_given hr
    rw [hgiven, hhouse] at h
    cases hoff : config.turnsOff with
    | true => rw [hoff] at h; exact absurd rfl h
    | false => rw [hoff] at h; exact absurd hok h
  | some value =>
    rw [hgiven] at h
    have hno : ¬ r.Accepts value := (Rule.setting_isOk (builtin_regular r hr)).not.1 h
    by_cases hmap : ∃ entries, value = .map entries
    · obtain ⟨entries, rfl⟩ := hmap
      obtain ⟨e, he, htakes⟩ : ∃ e ∈ entries, ¬ r.Takes e := by
        by_contra hall
        push Not at hall
        exact hno (.options hall)
      exact .badOption hr hgiven he htakes
    · refine .badSetting hr hgiven ?_ fun entries hentries => hmap ⟨entries, hentries⟩
      rintro b rfl
      exact hno (.state b)

theorem not_isOk_of_faulty (hfaulty : config.Faulty) : ¬ (settingsFor .builtin config).isOk = true := by
  rw [settingsFor_isOk]
  rintro ⟨hnames, hsettings⟩
  have hnamed : ∀ {key value}, (key, value) ∈ config → ∃ name, nameOf .builtin (key, value) = .ok name := by
    intro key value he
    have hok := hnames _ he
    cases hname : nameOf .builtin (key, value) with
    | error fault => rw [hname] at hok; cases hok
    | ok name => exact ⟨name, rfl⟩
  have haccepts : ∀ {r value}, r ∈ Registry.builtin.rules → config.given r = some value → r.Accepts value := by
    intro r value hr hgiven
    have hok := hsettings r hr
    unfold Mapping.deciding at hok
    rw [hgiven] at hok
    exact (Rule.setting_isOk (builtin_regular r hr)).1 hok
  cases hfaulty with
  | keyNotString he hkey =>
    obtain ⟨name, hname⟩ := hnamed he
    rcases nameOf_builtin_eq_ok_iff.1 hname with ⟨rfl, -⟩ | ⟨s, rfl, -⟩
    · exact hkey _ rfl
    · exact hkey s rfl
  | defaultNotBoolean he hvalue =>
    obtain ⟨name, hname⟩ := hnamed he
    rcases nameOf_builtin_eq_ok_iff.1 hname with ⟨-, ⟨b, rfl⟩, -⟩ | ⟨s, hs, r, hr, hknown, -⟩
    · exact hvalue b rfl
    · cases hs
      exact Registry.not_knownAs_default hr hknown
  | unknownRule he hkey hunknown =>
    obtain ⟨name, hname⟩ := hnamed he
    rcases nameOf_builtin_eq_ok_iff.1 hname with ⟨hs, -⟩ | ⟨s, hs, r, hr, hknown, -⟩
    · cases hs
      exact hkey rfl
    · cases hs
      exact hunknown r hr hknown
  | badSetting hr hgiven hbool hmap =>
    cases haccepts hr hgiven with
    | state b => exact hbool b rfl
    | options htakes => exact hmap _ rfl
  | badOption hr hgiven he htakes =>
    cases haccepts hr hgiven with
    | options hall => exact htakes (hall _ he)

theorem settingsFor_isOk_iff : (settingsFor .builtin config).isOk = true ↔ ¬ config.Faulty := by
  refine ⟨fun hok hfaulty => not_isOk_of_faulty hfaulty hok, fun hfaulty => settingsFor_isOk.2 ⟨?_, ?_⟩⟩
  · exact fun e he => by_contra fun h => hfaulty (faulty_of_nameOf he h)
  · exact fun r hr => by_contra fun h => hfaulty (faulty_of_setting hr h)

/-! ## Settings -/

theorem resolves_of_given (hr : r.Regular) (hgiven : config.given r = some value)
    (h : r.setting value = .ok setting) : Mapping.Resolves r config setting := by
  cases value with
  | bool b =>
    cases h
    exact .state hgiven
  | map entries =>
    rw [Rule.setting_map] at h
    cases ho : r.effectiveOptions entries with
    | error fault => rw [ho] at h; cases h
    | ok o =>
      rw [ho] at h
      cases h
      rw [((Rule.effectiveOptions_eq_ok_iff hr).1 ho).2]
      exact .options hgiven
  | _ => cases h

theorem resolves_of_deciding (hr : r ∈ Registry.builtin.rules) (h : r.setting (config.deciding r) = .ok setting) :
    Mapping.Resolves r config setting := by
  have hregular := builtin_regular r hr
  unfold Mapping.deciding at h
  cases hgiven : config.given r with
  | some value =>
    rw [hgiven] at h
    exact resolves_of_given hregular hgiven h
  | none =>
    rw [hgiven] at h
    cases hoff : config.turnsOff with
    | true =>
      rw [hoff] at h
      cases h
      exact .off hgiven (Mapping.turnsOff_iff.1 hoff)
    | false =>
      obtain ⟨value, hhouse, -⟩ := houseStyle_given hr
      rw [hoff, hhouse] at h
      refine .house hgiven (fun hothers => ?_) (resolves_of_given hregular hhouse h)
      rw [Mapping.turnsOff_iff.2 hothers] at hoff
      cases hoff

theorem resolves_of_settingsFor {settings : List Setting} (h : settingsFor .builtin config = .ok settings) :
    List.Forall₂ (fun r => Mapping.Resolves r config) Registry.builtin.rules settings := by
  cases hlayer : layerOf .builtin config with
  | error fault => rw [settingsFor_of_error hlayer] at h; cases h
  | ok layer =>
    rw [settingsFor_eq hlayer] at h
    refine List.forall₂_iff_zip.2 ⟨(forall₂_of_mapM h).length_eq, fun hmem => ?_⟩
    exact resolves_of_deciding (List.of_mem_zip hmem).1 ((List.forall₂_iff_zip.1 (forall₂_of_mapM h)).2 hmem)

/-- A configuration leaves no choice about the setting of a rule. -/
theorem Mapping.Resolves.unique {setting' : Setting} (h : Mapping.Resolves r config setting)
    (h' : Mapping.Resolves r config setting') : setting = setting' := by
  induction h with
  | state hgiven =>
    cases h' with
    | state hgiven' => cases hgiven.symm.trans hgiven'; rfl
    | options hgiven' => cases hgiven.symm.trans hgiven'
    | off hnone => cases hgiven.symm.trans hnone
    | house hnone => cases hgiven.symm.trans hnone
  | options hgiven =>
    cases h' with
    | state hgiven' => cases hgiven.symm.trans hgiven'
    | options hgiven' => cases hgiven.symm.trans hgiven'; rfl
    | off hnone => cases hgiven.symm.trans hnone
    | house hnone => cases hgiven.symm.trans hnone
  | off hnone hothers =>
    cases h' with
    | state hgiven => cases hnone.symm.trans hgiven
    | options hgiven => cases hnone.symm.trans hgiven
    | off => rfl
    | house _ hnot => exact absurd hothers hnot
  | house hnone hothers _ ih =>
    cases h' with
    | state hgiven => cases hnone.symm.trans hgiven
    | options hgiven => cases hnone.symm.trans hgiven
    | off _ hoff => exact absurd hoff hothers
    | house _ _ hhouse => exact ih hhouse

/-! ## Overwritten values -/

section

variable {front back : Mapping} {key : String}

theorem deciding_overwritten (hr : r ∈ Registry.builtin.rules) (hkey : r.KnownAs key)
    (hlater : (back.given r).isSome = true) {r' : Rule} (hr' : r' ∈ Registry.builtin.rules) :
    (front ++ (.str key, value) :: back).deciding r' = (front ++ back).deciding r' := by
  have hothers : (front ++ (.str key, value) :: back).others = (front ++ back).others := by
    have hne : key ≠ defaultKey := fun heq => Registry.not_knownAs_default hr (heq ▸ hkey)
    simp [Mapping.others, Mapping.lastUnder_append, Mapping.lastUnder_cons, Value.isString, hne]
  have hgiven : (front ++ (.str key, value) :: back).given r' = (front ++ back).given r' := by
    unfold Mapping.given
    rw [Mapping.lastUnder_append, Mapping.lastUnder_append, Mapping.lastUnder_cons]
    congr 1
    by_cases hknown : r'.KnownAs key
    · cases Registry.eq_of_knownAs hr hr' hkey hknown
      obtain ⟨later, hlater⟩ := Option.isSome_iff_exists.1 hlater
      unfold Mapping.given at hlater
      rw [hlater, Option.some_or]
    · simp [Value.isString, hknown]
  unfold Mapping.deciding Mapping.turnsOff
  rw [hothers, hgiven]

/-- A value for a rule counts for nothing if another one comes later, under whichever key. -/
theorem settingsFor_overwritten (hr : r ∈ Registry.builtin.rules) (hkey : r.KnownAs key)
    (hlater : (back.given r).isSome = true) :
    settingsFor .builtin (front ++ (.str key, value) :: back) = settingsFor .builtin (front ++ back) := by
  have hnamed : namedEntry .builtin (.str key, value) = .ok (r.name, value) := by
    unfold namedEntry
    rw [nameOf_builtin_eq_ok_iff.2 (.inr ⟨key, rfl, r, hr, hkey, rfl⟩)]
    rfl
  -- the entry is read without a fault, so both configurations have the same first fault if any
  have hfault : (layerOf .builtin (front ++ (.str key, value) :: back)).map (fun _ => ()) =
      (layerOf .builtin (front ++ back)).map fun _ => () := by
    rw [layerOf_eq, layerOf_eq, List.mapM_append, List.mapM_append, List.mapM_cons, hnamed]
    cases front.mapM (namedEntry .builtin) <;> cases back.mapM (namedEntry .builtin) <;> rfl
  cases h : layerOf .builtin (front ++ (.str key, value) :: back) with
  | error fault =>
    cases h' : layerOf .builtin (front ++ back) with
    | error fault' =>
      rw [h, h'] at hfault
      cases hfault
      rw [settingsFor_of_error h, settingsFor_of_error h']
    | ok layer' => rw [h, h'] at hfault; cases hfault
  | ok layer =>
    cases h' : layerOf .builtin (front ++ back) with
    | error fault' => rw [h, h'] at hfault; cases hfault
    | ok layer' =>
      rw [settingsFor_eq h, settingsFor_eq h']
      exact mapM_congr fun r' hr' => by rw [deciding_overwritten hr hkey hlater hr']

end

/-- A configuration over the built-in rules is refused exactly if it is faulty, and otherwise gives
each rule, in order, the setting that it specifies. A value for a rule has no effect if another one
for it comes later. -/
theorem settingsFor_exact (config : Mapping) :
    ((∃ fault, settingsFor .builtin config = .error fault) ↔ config.Faulty) ∧
      (∀ settings, settingsFor .builtin config = .ok settings ↔
        ¬ config.Faulty ∧ List.Forall₂ (fun r => Mapping.Resolves r config) Registry.builtin.rules settings) ∧
      ∀ (front : Mapping) (key : String) (value : Value) (back : Mapping),
        config = front ++ (.str key, value) :: back → ∀ r ∈ Registry.builtin.rules, r.KnownAs key →
          (back.given r).isSome = true → settingsFor .builtin config = settingsFor .builtin (front ++ back) := by
  have hok : (settingsFor .builtin config).isOk = true ↔ ¬ config.Faulty := settingsFor_isOk_iff
  refine ⟨?_, fun settings => ⟨fun h => ?_, ?_⟩, ?_⟩
  · cases h : settingsFor .builtin config with
    | error fault =>
      rw [h] at hok
      exact ⟨fun _ => by_contra fun hnot => absurd (hok.2 hnot) Bool.false_ne_true, fun _ => ⟨fault, rfl⟩⟩
    | ok settings =>
      rw [h] at hok
      exact ⟨nofun, fun hfaulty => absurd hfaulty (hok.1 rfl)⟩
  · exact ⟨hok.1 (by rw [h]; rfl), resolves_of_settingsFor h⟩
  · rintro ⟨hfaulty, hresolves⟩
    cases h : settingsFor .builtin config with
    | error fault => exact absurd (hok.2 hfaulty) (by rw [h]; exact Bool.false_ne_true)
    | ok settings' =>
      have hunique : Relator.RightUnique fun (r : Rule) => Mapping.Resolves r config :=
        fun _ _ _ => Mapping.Resolves.unique
      -- the settings that there are meet the same specification, which allows for no others
      rw [hunique.forall₂ hresolves (resolves_of_settingsFor h)]
  · rintro front key value back rfl r hr hkey hlater
    exact settingsFor_overwritten hr hkey hlater

/-- A number is no setting, but it is not looked at where options for the same rule follow. -/
theorem settingsFor_alias :
    settingsFor .builtin [(.str "HM002", .int 5), (.str "default", .bool false),
        (.str "hm002", .map [(.str "fence_length", .int 6)])] =
      settingsFor .builtin [(.str "default", .bool false), (.str "hm002", .map [(.str "fence_length", .int 6)])] ∧
    ¬ Mapping.Faulty [(.str "default", .bool false), (.str "hm002", .map [(.str "fence_length", .int 6)])] ∧
    ∃ fault, settingsFor .builtin [(.str "hm002", .map [(.str "fence_length", .int 6)]), (.str "HM002", .int 5)] =
      .error fault :=
  ⟨(settingsFor_exact _).2.2 [] "HM002" (.int 5) _ rfl fenceRule (by rw [builtin_rules]; simp) (by decide) (by decide),
    (((settingsFor_exact _).2.1 _).1 rfl).1,
    (settingsFor_exact _).1.2 (@Mapping.Faulty.badSetting _ fenceRule (.int 5) (by rw [builtin_rules]; simp) (by rfl)
      nofun nofun)⟩

end MarkdownStyle
