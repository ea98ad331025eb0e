/-
Layers of a configuration. Giving names their values one after the other leaves each name with the
last one, so a layer over another shadows what it names and nothing else, and a configuration that
mentions a rule under several of its keys counts for what it says there last.
-/
import MarkdownStyle.Proofs.Config.Key
import MarkdownStyle.Proofs.Rule.Overlay

namespace MarkdownStyle

/-! ## Layers -/

namespace Layer

variable {l base above : Layer} {name : String} {value : Value}

theorem lookup_insert (l : Layer) (name other : String) (value : Value) :
    (l.insert name value).lookup other = if other = name then some value else l.lookup other := by
  induction l with
  | nil => exact lookup_cons_eq (name, value) [] other
  | cons e rest ih =>
    rw [insert, lookup_cons_eq]
    by_cases hn : e.1 = name
    · rw [if_pos (beq_iff_eq.2 hn), lookup_cons_eq, hn]
      split <;> rfl
    · rw [if_neg (mt beq_iff_eq.1 hn), lookup_cons_eq, ih]
      by_cases hother : other = e.1
      · rw [if_pos hother, if_pos hother, if_neg (hother ▸ hn)]
      · rw [if_neg hother, if_neg hother]

theorem mem_names_insert {l : Layer} {name other : String} {value : Value} :
    other ∈ (l.insert name value).map Prod.fst ↔ other ∈ l.map Prod.fst ∨ other = name := by
  induction l with
  | nil => simp [insert]
  | cons e rest ih =>
    rw [insert, List.map_cons, List.mem_cons]
    by_cases hn : e.1 = name
    · rw [if_pos (beq_iff_eq.2 hn), List.map_cons, List.mem_cons, hn]
      tauto
    · rw [if_neg (mt beq_iff_eq.1 hn), List.map_cons, List.mem_cons, ih, or_assoc]

theorem nodup_insert (h : (l.map Prod.fst).Nodup) (name : String) (value : Value) :
    ((l.insert name value).map Prod.fst).Nodup := by
  induction l with
  | nil => simp [insert]
  | cons e rest ih =>
    obtain ⟨hnot, hrest⟩ := List.nodup_cons.1 h
    rw [insert]
    by_cases hn : e.1 = name
    · rw [if_pos (beq_iff_eq.2 hn)]
      exact List.nodup_cons.2 ⟨hn ▸ hnot, hrest⟩
    · rw [if_neg (mt beq_iff_eq.1 hn)]
      exact List.nodup_cons.2 ⟨fun hmem => (mem_names_insert.1 hmem).elim hnot hn, ih hrest⟩

/-- The last value for a name is the one that counts, and a name without one keeps what it had. -/
theorem lookup_coveredBy (base above : Layer) (name : String) :
    (base.coveredBy above).lookup name = (above.reverse.lookup name).or (base.lookup name) := by
  unfold coveredBy
  induction above generalizing base with
  | nil => rfl
  | cons e above ih =>
    rw [List.foldl_cons, ih, lookup_insert, List.reverse_cons, List.lookup_append, lookup_cons_eq, Option.or_assoc]
    congr 1
    split <;> rfl

theorem nodup_coveredBy (h : (base.map Prod.fst).Nodup) (above : Layer) :
    ((base.coveredBy above).map Prod.fst).Nodup := by
  unfold coveredBy
  induction above generalizing base with
  | nil => exact h
  | cons e above ih => exact ih (nodup_insert h e.1 e.2)

/-- Where no name comes twice, the first value for a name is the last one. -/
theorem lookup_reverse (h : (l.map Prod.fst).Nodup) (name : String) : l.reverse.lookup name = l.lookup name := by
  have hreverse : (l.reverse.map Prod.fst).Nodup := by
    rw [List.map_reverse]
    exact List.nodup_reverse.2 h
  ext value
  rw [lookup_eq_some_iff_mem hreverse, lookup_eq_some_iff_mem h, List.mem_reverse]

end Layer

/-! ## Names of entries -/

/-- An entry under the name that its key stands for. -/
def namedEntry (g : Registry) (entry : Value × Value) : Except ConfigFault (String × Value) :=
  (nameOf g entry).map (·, entry.2)

theorem namedEntry_isOk {g : Registry} {entry : Value × Value} :
    (namedEntry g entry).isOk = (nameOf g entry).isOk := by
  unfold namedEntry
  cases nameOf g entry <;> rfl

/-- Every entry is named before any layer is looked at. -/
theorem layerOf_eq (g : Registry) (config : Mapping) :
    layerOf g config = (config.mapM (namedEntry g)).map (Layer.coveredBy []) := by
  have hfold : ∀ start : Layer,
      config.foldlM (fun layer entry => (nameOf g entry).map fun name => layer.insert name entry.2) start =
        (config.mapM (namedEntry g)).map start.coveredBy := by
    induction config with
    | nil => exact fun start => rfl
    | cons e config ih =>
      intro start
      rw [List.foldlM_cons, List.mapM_cons, namedEntry]
      cases nameOf g e with
      | error fault => rfl
      | ok name =>
        refine (ih (start.insert name e.2)).trans ?_
        cases config.mapM (namedEntry g) <;> rfl
  exact hfold []

theorem layerOf_isOk {g : Registry} {config : Mapping} :
    (layerOf g config).isOk = true ↔ ∀ e ∈ config, (nameOf g e).isOk = true := by
  have hmap : (layerOf g config).isOk = (config.mapM (namedEntry g)).isOk := by
    rw [layerOf_eq]
    cases config.mapM (namedEntry g) <;> rfl
  rw [hmap, mapM_isOk]
  simp only [namedEntry_isOk]

theorem nodup_layerOf {g : Registry} {config : Mapping} {layer : Layer} (h : layerOf g config = .ok layer) :
    (layer.map Prod.fst).Nodup := by
  rw [layerOf_eq] at h
  cases hnamed : config.mapM (namedEntry g) with
  | error fault => rw [hnamed] at h; cases h
  | ok named =>
    rw [hnamed] at h
    cases h
    exact @Layer.nodup_coveredBy [] List.nodup_nil named

/-- A name has the value that is given last under the keys that stand for it. -/
theorem lookup_layerOf {g : Registry} {config : Mapping} {layer : Layer} (h : layerOf g config = .ok layer)
    {name : String} {test : String → Bool}
    (hname : ∀ e ∈ config, ∀ n, nameOf g e = .ok n → (n = name ↔ e.1.isString test = true)) :
    layer.lookup name = config.lastUnder test := by
  rw [layerOf_eq] at h
  cases hnamed : config.mapM (namedEntry g) with
  | error fault => rw [hnamed] at h; cases h
  | ok named =>
    rw [hnamed] at h
    cases h
    rw [Layer.lookup_coveredBy, List.lookup_nil, Option.or_none]
    -- entries and their named forms side by side, both read from the end
    have hall := forall₂_of_mapM hnamed
    clear hnamed
    induction hall with
    | nil => rfl
    | @cons e n config named he _ ih =>
      obtain ⟨hhead, hrest⟩ := List.forall_mem_cons.1 hname
      rw [List.reverse_cons, List.lookup_append, ih hrest, Mapping.lastUnder_cons]
      congr 1
      unfold namedEntry at he
      cases hn : nameOf g e with
      | error fault => rw [hn] at he; cases he
      | ok found =>
        rw [hn] at he
        cases he
        rw [lookup_cons_eq]
        by_cases hfound : found = name
        · rw [if_pos ((hhead found hn).1 hfound), if_pos hfound.symm]
        · rw [if_neg (mt (hhead found hn).2 hfound), if_neg (Ne.symm hfound)]
          rfl

/-! ## Configurations of built-in rules -/

/-- The value that a configuration gives a rule last, under whichever of its keys. -/
def Mapping.given (config : Mapping) (r : Rule) : Option Value := config.lastUnder fun key => decide (r.KnownAs key)

/-- The state that a configuration gives all rules that it does not mention. -/
def Mapping.others (config : Mapping) : Option Value := config.lastUnder (· == defaultKey)

/-- Entries that stand for something: a truth value for all other rules, or anything for a rule. -/
theorem nameOf_builtin_eq_ok_iff {key value : Value} {name : String} :
    nameOf .builtin (key, value) = .ok name ↔
      (key = .str defaultKey ∧ (∃ b, value = .bool b) ∧ name = defaultKey) ∨
        ∃ s, key = .str s ∧ ∃ r ∈ Registry.builtin.rules, r.KnownAs s ∧ name = r.name := by
  unfold nameOf
  cases key with
  | str s =>
    by_cases hs : s = defaultKey
    · subst hs
      have hno : ¬ ∃ r ∈ Registry.builtin.rules, r.KnownAs defaultKey ∧ name = r.name := by
        rintro ⟨r, hr, hkey, -⟩
        exact Registry.not_knownAs_default hr hkey
      cases value <;> simp [hno, eq_comm]
    · have hbeq : (s == defaultKey) = false := by simpa using hs
      simp only [hbeq, Bool.false_eq_true, if_false, Value.str.injEq, hs, false_and, false_or, exists_eq_left']
      constructor
      · intro h
        cases hget : Registry.builtin.get s with
        | error fault => rw [hget] at h; cases h
        | ok r =>
          rw [hget] at h
          cases h
          obtain ⟨hr, hkey⟩ := Registry.builtin_get_eq_ok_iff.1 hget
          exact ⟨r, hr, hkey, rfl⟩
      · rintro ⟨r, hr, hkey, rfl⟩
        rw [Registry.builtin_get_eq_ok_iff.2 ⟨hr, hkey⟩]
        rfl
  | _ => simp

section

variable {config : Mapping} {layer : Layer}

theorem lookup_default (h : layerOf .builtin config = .ok layer) : layer.lookup defaultKey = config.others := by
  refine lookup_layerOf h fun e he n hn => ?_
  rw [Value.isString_iff]
  rcases nameOf_builtin_eq_ok_iff.1 hn with ⟨hkey, -, rfl⟩ | ⟨s, hkey, r, hr, hs, rfl⟩
  · simp [hkey]
  · have hname : r.name ≠ defaultKey := fun heq => Registry.not_knownAs_default hr (.inl heq.symm)
    have hne : s ≠ defaultKey := fun heq => Registry.not_knownAs_default hr (heq ▸ hs)
    simp [hkey, hname, hne]

theorem lookup_rule {r : Rule} (hr : r ∈ Registry.builtin.rules) (h : layerOf .builtin config = .ok layer) :
    layer.lookup r.name = config.given r := by
  refine lookup_layerOf h fun e he n hn => ?_
  rw [Value.isString_iff]
  rcases nameOf_builtin_eq_ok_iff.1 hn with ⟨hkey, -, rfl⟩ | ⟨s, hkey, r', hr', hs, rfl⟩
  · have hname : defaultKey ≠ r.name := fun heq => Registry.not_knownAs_default hr (.inl heq)
    simp [hkey, hname, Registry.not_knownAs_default hr]
  · simp only [hkey, Value.str.injEq, exists_eq_left', decide_eq_true_eq]
    exact ⟨fun heq => List.inj_on_of_nodup_map Registry.builtin.nodup_names hr' hr heq ▸ hs,
      fun hother => by rw [Registry.eq_of_knownAs hr' hr hs hother]⟩

end

end MarkdownStyle
