/-
Rules do not get in each other's way. Each enabled rule yields its own issues, or the one issue that
stands for its failure, and what a linter reports is the stable sort of all of them in the order of
the rules. So switching a rule off takes its own issues away and no others, switching it on again
brings back the report as it was, and the order of the rules only matters among rules of one id.
-/
import MarkdownStyle.Proofs.Edit
import MarkdownStyle.Proofs.Rule.Options
import MarkdownStyle.Rule.Listed

namespace MarkdownStyle

/-! ## Stable sorts -/

/-- The order by line, then by rule id. -/
def Issue.InOrder (a b : Issue) : Prop := a.line < b.line ∨ a.line = b.line ∧ a.ruleId ≤ b.ruleId

/-- The same issues in order; those with one line and one id stay as they come. -/
structure StableSort (given sorted : List Issue) : Prop where
  perm : sorted.Perm given
  ordered : sorted.Pairwise Issue.InOrder
  stable : ∀ line id, sorted.filter (fun i => i.line = line ∧ i.ruleId = id) =
    given.filter fun i => i.line = line ∧ i.ruleId = id

namespace Issue

theorem InOrder.antisymm {a b : Issue} (hab : a.InOrder b) (hba : b.InOrder a) :
    a.line = b.line ∧ a.ruleId = b.ruleId := by
  rcases hab with hab | ⟨hline, hab⟩ <;> rcases hba with hba | ⟨hline', hba⟩
  · omega
  · omega
  · omega
  · exact ⟨hline, String.le_antisymm hab hba⟩

theorem notAfter_iff {a b : Issue} : a.notAfter b = true ↔ a.InOrder b := by
  simp [notAfter, InOrder]

theorem notAfter_trans (a b c : Issue) (hab : a.notAfter b = true) (hbc : b.notAfter c = true) :
    a.notAfter c = true := by
  rw [notAfter_iff] at *
  rcases hab with hab | ⟨hab, ha⟩ <;> rcases hbc with hbc | ⟨hbc, hb⟩
  · exact .inl (by omega)
  · exact .inl (by omega)
  · exact .inl (by omega)
  · exact .inr ⟨by omega, String.le_trans ha hb⟩

theorem notAfter_total (a b : Issue) : (a.notAfter b || b.notAfter a) = true := by
  rw [Bool.or_eq_true, notAfter_iff, notAfter_iff]
  rcases lt_trichotomy a.line b.line with h | h | h
  · exact .inl (.inl h)
  · rcases String.le_total a.ruleId b.ruleId with hid | hid
    · exact .inl (.inr ⟨h, hid⟩)
    · exact .inr (.inr ⟨h.symm, hid⟩)
  · exact .inr (.inl h)

theorem sort_stable (given : List Issue) : StableSort given (sort given) where
  perm := List.mergeSort_perm ..
  ordered := (List.pairwise_mergeSort notAfter_trans notAfter_total given).imp notAfter_iff.1
  stable line id := by
    refine filter_mergeSort notAfter_trans notAfter_total (fun a b ha hb => ?_) given
    simp only [decide_eq_true_eq] at ha hb
    rw [notAfter_iff, InOrder, ha.1, ha.2, hb.1, hb.2]
    exact .inr ⟨rfl, String.le_refl id⟩

end Issue

theorem mem_of_filter_eq {xs ys : List Issue} (h : ∀ line id, xs.filter (fun i => i.line = line ∧ i.ruleId = id) =
    ys.filter fun i => i.line = line ∧ i.ruleId = id) (i : Issue) : i ∈ xs ↔ i ∈ ys := by
  have := congrArg (i ∈ ·) (h i.line i.ruleId)
  simpa [List.mem_filter] using this

/-- Two lists in order that agree on the issues of each line and id are the same. -/
theorem eq_of_inOrder {xs ys : List Issue} (hx : xs.Pairwise Issue.InOrder) (hy : ys.Pairwise Issue.InOrder)
    (h : ∀ line id, xs.filter (fun i => i.line = line ∧ i.ruleId = id) =
      ys.filter fun i => i.line = line ∧ i.ruleId = id) : xs = ys := by
  have hmem := mem_of_filter_eq h
  induction xs generalizing ys with
  | nil =>
    rcases ys with _ | ⟨b, ys⟩
    · rfl
    · exact absurd ((hmem b).2 (List.mem_cons_self ..)) List.not_mem_nil
  | cons a xs ih =>
    rcases ys with _ | ⟨b, ys⟩
    · exact absurd ((hmem a).1 (List.mem_cons_self ..)) List.not_mem_nil
    obtain ⟨ha, hxs⟩ := List.pairwise_cons.1 hx
    obtain ⟨hb, hys⟩ := List.pairwise_cons.1 hy
    -- neither head may stand below the other one, so they share line and id
    have hsame : a = b := by
      rcases List.mem_cons.1 ((hmem b).2 (List.mem_cons_self ..)) with hba | hba
      · exact hba.symm
      rcases List.mem_cons.1 ((hmem a).1 (List.mem_cons_self ..)) with hab | hab
      · exact hab
      obtain ⟨hline, hid⟩ := (ha b hba).antisymm (hb a hab)
      have hclass := h a.line a.ruleId
      rw [List.filter_cons_of_pos (by simp), List.filter_cons_of_pos (by simp [hline, hid])] at hclass
      exact (List.cons.inj hclass).1
    subst hsame
    have hrest : ∀ line id, xs.filter (fun i => i.line = line ∧ i.ruleId = id) =
        ys.filter fun i => i.line = line ∧ i.ruleId = id := by
      intro line id
      have hclass := h line id
      rw [List.filter_cons, List.filter_cons] at hclass
      split at hclass
      · exact (List.cons.inj hclass).2
      · exact hclass
    rw [ih hxs hys hrest (mem_of_filter_eq hrest)]

theorem StableSort.unique {given xs ys : List Issue} (hx : StableSort given xs) (hy : StableSort given ys) :
    xs = ys :=
  eq_of_inOrder hx.ordered hy.ordered fun line id => (hx.stable line id).trans (hy.stable line id).symm

/-- Whatever passes a test can be picked before sorting or after it. -/
theorem Issue.filter_sort (p : Issue → Bool) (given : List Issue) : (sort given).filter p = sort (given.filter p) := by
  have hall := sort_stable given
  have hpart := sort_stable (given.filter p)
  refine eq_of_inOrder (hall.ordered.filter p) hpart.ordered fun line id => ?_
  rw [hpart.stable, List.filter_comm, hall.stable, List.filter_comm]

/-! ## What a rule yields -/

/-- What a rule yields on its own: nothing if it is off, else its findings or the one issue about its
failure. -/
inductive Yields (d : Document) (rule : Rule) (setting : Setting) : List Issue → Prop
  | off : setting.enabled = false → Yields d rule setting []
  | found {found : List Finding} : setting.enabled = true → rule.check d setting.options = .ok found →
    Yields d rule setting (found.map fun f => ⟨f, rule.id, rule.name, rule.severity⟩)
  | failed {failure : CheckFailure} : setting.enabled = true → rule.check d setting.options = .error failure →
    Yields d rule setting
      [⟨⟨1, "Rule check failed: " ++ failure.message, [], none⟩, rule.id, rule.name, .error⟩]

namespace Linter

variable {d : Document} {rule : Rule} {setting : Setting} {l : Linter}

theorem yields_issuesOf (d : Document) (rule : Rule) (setting : Setting) :
    Yields d rule setting (issuesOf d rule setting) := by
  unfold issuesOf
  split
  · rename_i hon
    rw [Rule.issues]
    cases hc : rule.check d setting.options with
    | ok found => exact .found hon hc
    | error failure => exact .failed hon hc
  · rename_i hoff
    exact .off (by simpa using hoff)

/-- Whatever a rule yields carries its id and its name. -/
theorem rule_of_mem_issuesOf {i : Issue} (h : i ∈ issuesOf d rule setting) :
    i.ruleId = rule.id ∧ i.ruleName = rule.name := by
  have hy := yields_issuesOf d rule setting
  generalize issuesOf d rule setting = part at h hy
  cases hy with
  | off _ => cases h
  | found _ _ =>
    obtain ⟨f, -, rfl⟩ := List.mem_map.1 h
    exact ⟨rfl, rfl⟩
  | failed _ _ =>
    rw [List.mem_singleton.1 h]
    exact ⟨rfl, rfl⟩

theorem issuesOf_off (h : setting.enabled = false) : issuesOf d rule setting = [] := by
  simp [issuesOf, h]

theorem issues_eq (l : Linter) (d : Document) :
    l.issues d = Issue.sort (l.rules.flatMap fun entry => issuesOf d entry.1 entry.2) := rfl

theorem map_fst_rules (l : Linter) : l.rules.map Prod.fst = l.registry.rules :=
  List.map_fst_zip l.length_settings.ge

theorem nodup_names_rules (l : Linter) : (l.rules.map (·.1.name)).Nodup := by
  have h := l.registry.nodup_names
  rwa [← l.map_fst_rules, List.map_map] at h

theorem eq_of_rules {l' : Linter} (hg : l'.registry = l.registry) (hr : l'.rules = l.rules) : l' = l := by
  have hsettings : ∀ l : Linter, l.rules.map Prod.snd = l.settings := fun l =>
    List.map_snd_zip l.length_settings.le
  have hs : l'.settings = l.settings := by rw [← hsettings l', hr, hsettings l]
  obtain ⟨g, settings, hlen⟩ := l
  obtain ⟨g', settings', hlen'⟩ := l'
  cases hg
  cases hs
  rfl

/-! ## Switching rules -/

theorem zip_zipWith_left {α β γ : Type} (f : α → β → γ) (xs : List α) (ys : List β) :
    xs.zip (List.zipWith f xs ys) = (xs.zip ys).map fun e => (e.1, f e.1 e.2) := by
  induction xs generalizing ys with
  | nil => rfl
  | cons x xs ih =>
    cases ys with
    | nil => rfl
    | cons y ys => rw [List.zipWith_cons_cons, List.zip_cons_cons, List.zip_cons_cons, List.map_cons, ih]

/-- Switching touches the setting of the rule of the name and no other. -/
theorem rules_setEnabled (l : Linter) (name : String) (enabled : Bool) :
    (l.setEnabled name enabled).rules = l.rules.map fun e =>
      (e.1, if e.1.name == name then { e.2 with enabled } else e.2) :=
  zip_zipWith_left ..

/-- A rule that is switched off takes its own issues away. -/
theorem issues_setEnabled_false (l : Linter) (name : String) (d : Document) :
    (l.setEnabled name false).issues d = (l.issues d).filter (·.ruleName != name) := by
  rw [issues_eq, issues_eq, Issue.filter_sort, List.filter_flatMap, rules_setEnabled, List.flatMap_map]
  refine congrArg Issue.sort (List.flatMap_congr fun e _ => ?_)
  by_cases hname : e.1.name = name
  · rw [if_pos (by simp [hname]), issuesOf_off rfl, eq_comm, List.filter_eq_nil_iff]
    intro i hi
    simp [(rule_of_mem_issuesOf hi).2, hname]
  · rw [if_neg (by simp [hname]), eq_comm, List.filter_eq_self]
    intro i hi
    simp [(rule_of_mem_issuesOf hi).2, hname]

theorem setEnabled_setEnabled (l : Linter) (name : String) (first second : Bool) :
    (l.setEnabled name first).setEnabled name second = l.setEnabled name second := by
  refine eq_of_rules rfl ?_
  rw [rules_setEnabled, rules_setEnabled, rules_setEnabled, List.map_map]
  refine List.map_congr_left fun e _ => ?_
  by_cases hname : e.1.name = name <;> simp [hname]

theorem mem_enabledNames {name : String} :
    name ∈ l.enabledNames ↔ ∃ e ∈ l.rules, e.1.name = name ∧ e.2.enabled = true := by
  unfold enabledNames
  rw [List.mem_filterMap]
  refine exists_congr fun e => and_congr_right fun _ => ?_
  rcases e with ⟨rule, enabled, options⟩
  cases enabled <;> simp

/-- A rule that is on already can be switched on. -/
theorem setEnabled_true {name : String} (h : name ∈ l.enabledNames) : l.setEnabled name true = l := by
  refine eq_of_rules rfl ?_
  rw [rules_setEnabled]
  conv_rhs => rw [← List.map_id l.rules]
  refine List.map_congr_left fun e he => ?_
  by_cases hname : e.1.name = name
  · obtain ⟨on, hon, hname', henabled⟩ := mem_enabledNames.1 h
    cases List.inj_on_of_nodup_map l.nodup_names_rules he hon (hname.trans hname'.symm)
    simp [hname, ← henabled]
  · simp [hname]

theorem switch_of_find? {key : String} (h : l.registry.find? key = some rule) (enabled : Bool) :
    l.switch key enabled = .ok (l.setEnabled rule.name enabled) := by
  unfold switch Registry.get
  rw [h]
  rfl

end Linter

/-! ## The order of rules -/

/-- Of rules with different ids at most one yields issues of an id, so their order does not matter. -/
theorem filter_flatMap_perm {d : Document} {es es' : List (Rule × Setting)} (h : es.Perm es')
    (hn : (es.map (·.1.id)).Nodup) (line : Int) (id : String) :
    (es.flatMap fun e => Linter.issuesOf d e.1 e.2).filter (fun i => i.line = line ∧ i.ruleId = id) =
      (es'.flatMap fun e => Linter.issuesOf d e.1 e.2).filter (fun i => i.line = line ∧ i.ruleId = id) := by
  have hnone : ∀ e : Rule × Setting, e.1.id ≠ id →
      (Linter.issuesOf d e.1 e.2).filter (fun i => i.line = line ∧ i.ruleId = id) = [] := by
    intro e hne
    rw [List.filter_eq_nil_iff]
    intro i hi
    simp [(Linter.rule_of_mem_issuesOf hi).1, hne]
  induction h with
  | nil => rfl
  | cons e _ ih => simp only [List.flatMap_cons, List.filter_append, ih (List.nodup_cons.1 hn).2]
  | swap e e' rest =>
    have hne : e'.1.id ≠ e.1.id := by
      intro hsame
      simp [hsame] at hn
    simp only [List.flatMap_cons, List.filter_append]
    by_cases he : e.1.id = id
    · rw [hnone e' (he ▸ hne), List.nil_append, List.nil_append]
    · rw [hnone e he, List.nil_append, List.nil_append]
  | trans h _ ih ih' => exact (ih hn).trans (ih' ((h.map _).nodup_iff.1 hn))

theorem Linter.issues_perm {l l' : Linter} (h : l'.rules.Perm l.rules) (hn : (l.registry.rules.map Rule.id).Nodup)
    (d : Document) : l'.issues d = l.issues d := by
  have hids : (l.rules.map (·.1.id)).Nodup := by
    rwa [← l.map_fst_rules, List.map_map] at hn
  rw [issues_eq, issues_eq]
  have hl := Issue.sort_stable (l.rules.flatMap fun e => issuesOf d e.1 e.2)
  have hl' := Issue.sort_stable (l'.rules.flatMap fun e => issuesOf d e.1 e.2)
  refine eq_of_inOrder hl'.ordered hl.ordered fun line id => ?_
  rw [hl.stable, hl'.stable, filter_flatMap_perm h.symm hids]

/-! ## The order of registration -/

/-- A search for what only one element can be does not depend on the order. -/
theorem find?_perm {α : Type} {p : α → Bool} {xs ys : List α} (h : xs.Perm ys)
    (hone : ∀ x ∈ xs, ∀ y ∈ xs, p x = true → p y = true → x = y) : xs.find? p = ys.find? p := by
  cases hx : xs.find? p with
  | none =>
    rw [eq_comm, List.find?_eq_none]
    intro y hy
    exact List.find?_eq_none.1 hx y (h.mem_iff.2 hy)
  | some x =>
    have hmem := List.mem_of_find?_eq_some hx
    cases hy : ys.find? p with
    | none => exact absurd (List.find?_some hx) (List.find?_eq_none.1 hy x (h.mem_iff.1 hmem))
    | some y =>
      exact congrArg some (hone x hmem y (h.mem_iff.2 (List.mem_of_find?_eq_some hy)) (List.find?_some hx)
        (List.find?_some hy))

/-- A key stands for the same rule in whatever order rules of different ids were registered. -/
theorem Registry.find?_eq_of_perm {g g' : Registry} (h : g.rules.Perm g'.rules)
    (hn : (g.rules.map Rule.id).Nodup) (key : String) : g.find? key = g'.find? key := by
  have hname : g.rules.find? (·.name == key) = g'.rules.find? (·.name == key) := by
    refine find?_perm h fun x hx y hy hkx hky => List.inj_on_of_nodup_map g.nodup_names hx hy ?_
    rw [beq_iff_eq] at hkx hky
    rw [hkx, hky]
  unfold find?
  rw [← hname]
  cases hfound : g.rules.find? (·.name == key) with
  | some rule => rfl
  | none =>
    -- no name is the key, so a rule can only match by its id
    refine find?_perm h fun x hx y hy hkx hky => List.inj_on_of_nodup_map hn hx hy ?_
    have hid : ∀ r ∈ g.rules, r.matchesKey key = true → Text.upper key.toList = r.id.toList := by
      intro r hr hm
      have hne := List.find?_eq_none.1 hfound r hr
      rw [Rule.matchesKey, Bool.or_eq_true, beq_iff_eq, beq_iff_eq] at hm
      exact hm.resolve_left fun h => hne (by simp [h])
    exact String.toList_inj.1 ((hid x hx hkx).symm.trans (hid y hy hky))

theorem layered_eq_of_perm {g g' : Registry} (h : g.rules.Perm g'.rules) (hn : (g.rules.map Rule.id).Nodup)
    (base above : Mapping) : layered g base above = layered g' base above := by
  have hname : nameOf g = nameOf g' := by
    funext entry
    unfold nameOf Registry.get
    simp only [Registry.find?_eq_of_perm h hn]
  unfold layered layerOf
  rw [hname]

theorem exists_forall₂_perm {α β : Type} {R : α → β → Prop} {xs xs' : List α} (h : xs.Perm xs') :
    ∀ {ys : List β}, List.Forall₂ R xs ys → ∃ ys', List.Forall₂ R xs' ys' ∧ (xs'.zip ys').Perm (xs.zip ys) := by
  induction h with
  | nil => exact fun hys => ⟨_, hys, .refl _⟩
  | cons x _ ih =>
    rintro _ (_ | ⟨hx, hys⟩)
    obtain ⟨ys', hys', hp⟩ := ih hys
    exact ⟨_, .cons hx hys', hp.cons _⟩
  | swap x y rest =>
    rintro _ (_ | ⟨hy, _ | ⟨hx, hys⟩⟩)
    exact ⟨_, .cons hx (.cons hy hys), .swap ..⟩
  | trans _ _ ih ih' =>
    intro ys hys
    obtain ⟨ys', hys', hp⟩ := ih hys
    obtain ⟨ys'', hys'', hp'⟩ := ih' hys'
    exact ⟨ys'', hys'', hp'.trans hp⟩

/-- A configuration gives each rule the same setting in whatever order the rules were registered. -/
theorem Linter.exists_ofConfig_of_perm {g g' : Registry} {config : Mapping} {l : Linter}
    (h : Linter.ofConfig g config = .ok l) (hp : g.rules.Perm g'.rules) (hn : (g.rules.map Rule.id).Nodup) :
    ∃ l', Linter.ofConfig g' config = .ok l' ∧ l'.rules.Perm l.rules := by
  obtain ⟨hg, hs⟩ := Linter.ofConfig_eq_ok h
  unfold settingsFor at hs
  rw [layered_eq_of_perm hp hn] at hs
  cases hl : layered g' houseStyle config with
  | error e => rw [hl] at hs; cases hs
  | ok layer =>
    rw [hl] at hs
    obtain ⟨settings, hall, hperm⟩ := exists_forall₂_perm hp (forall₂_of_mapM hs)
    have hs' : settingsFor g' config = .ok settings := by
      unfold settingsFor
      rw [hl]
      exact mapM_of_forall₂ hall
    obtain ⟨l', hl', hg', hsettings⟩ := Linter.exists_ofConfig hs'
    refine ⟨l', hl', ?_⟩
    unfold rules
    rwa [hg', hsettings, hg]

/-! ## Isolation -/

/-- What a linter reports is the stable sort of what its rules yield on their own, in the order of
the rules, and there is only one. Switching off the rule that a key stands for takes away exactly the
issues of its name; if it was on, switching it on again gives back the linter. If the ids of all
rules are different, neither the order of the rules in a linter nor the order in which they were
registered before a configuration was resolved changes the report. -/
theorem Linter.issues_isolated (l : Linter) (d : Document) :
    (∃ parts : List (List Issue), List.Forall₂ (fun e part => Yields d e.1 e.2 part) l.rules parts ∧
      StableSort parts.flatten (l.issues d) ∧ ∀ other, StableSort parts.flatten other → other = l.issues d) ∧
    (∀ key rule, l.registry.find? key = some rule → ∃ off, l.disable key = .ok off ∧
      off.issues d = (l.issues d).filter (·.ruleName != rule.name) ∧
      (rule.name ∈ l.enabledNames → off.enable key = .ok l)) ∧
    ((l.registry.rules.map Rule.id).Nodup →
      (∀ l' : Linter, l'.rules.Perm l.rules → l'.issues d = l.issues d) ∧
      ∀ g' config, l.registry.rules.Perm g'.rules → Linter.ofConfig l.registry config = .ok l →
        ∃ l', Linter.ofConfig g' config = .ok l' ∧ l'.issues d = l.issues d) := by
  refine ⟨⟨l.rules.map fun e => issuesOf d e.1 e.2, ?_, ?_⟩, ?_, fun hn => ⟨?_, ?_⟩⟩
  · rw [List.forall₂_map_right_iff, List.forall₂_same]
    exact fun e _ => yields_issuesOf d e.1 e.2
  · rw [← List.flatMap_def]
    exact ⟨Issue.sort_stable _, fun other hother => hother.unique (Issue.sort_stable _)⟩
  · intro key rule hkey
    refine ⟨_, switch_of_find? hkey false, l.issues_setEnabled_false rule.name d, fun hon => ?_⟩
    rw [enable, switch_of_find? (l := l.setEnabled rule.name false) hkey, setEnabled_setEnabled,
      setEnabled_true hon]
  · exact fun l' hp => Linter.issues_perm hp hn d
  · intro g' config hp h
    obtain ⟨l', hl', hrules⟩ := Linter.exists_ofConfig_of_perm h hp hn
    exact ⟨l', hl', Linter.issues_perm hrules hn d⟩

/-- A further rule that fails on every document. -/
def failingRule : Rule where
  id := "YY001"
  name := "failing"
  description := ""
  tags := []
  severity := .error
  fixable := false
  defaults := []
  minimums := []
  check := listedCheck (some "gave up") []

/-- A rule fails beside one that finds a list item; it is switched off and on by its id, and registered
first instead of last. -/
theorem issues_isolated_of_failing :
    let g := [failingRule].foldl Registry.add .builtin
    let d := Document.ofLines ["- a".toList]
    ∃ l, Linter.ofConfig g [] = .ok l ∧
      (∃ i ∈ l.issues d, i.ruleName = "failing") ∧ (∃ i ∈ l.issues d, i.ruleName = "list-item-marker-space") ∧
      (∃ off, l.disable "yy001" = .ok off ∧ off.issues d = (l.issues d).filter (·.ruleName != "failing") ∧
        off.enable "yy001" = .ok l) ∧
      ∃ l', Linter.ofConfig (Registry.ofList g.rules.reverse) [] = .ok l' ∧ l'.issues d = l.issues d := by
  intro g d
  let l : Linter := ⟨g, g.rules.map fun rule => ⟨true, rule.defaults⟩, List.length_map ..⟩
  have hl : Linter.ofConfig g [] = .ok l := rfl
  have hiso := Linter.issues_isolated l d
  refine ⟨l, hl, ⟨Linter.failureIssue failingRule (.raised "gave up"), List.mem_mergeSort.2 (by decide), rfl⟩,
    ⟨dashItemRule.issue ⟨1, "Expected 1 leading space(s), found 0", "- a".toList, some (.replace 1 " -  a".toList)⟩,
      List.mem_mergeSort.2 (by decide), rfl⟩, ?_, ?_⟩
  · obtain ⟨off, hoff, hissues, hon⟩ := hiso.2.1 "yy001" failingRule rfl
    exact ⟨off, hoff, hissues, hon (by decide)⟩
  · exact (hiso.2.2 (by decide)).2 (Registry.ofList g.rules.reverse) [] (List.reverse_perm _).symm hl

end MarkdownStyle
