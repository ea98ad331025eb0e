/-
What a session does to the settings of a linter. Only a request with a key that stands for a rule
changes anything, and it changes the state of that one rule; so at the end of a session each rule
has the state that the last such request gave it, or the state that it began with.
-/
import MarkdownStyle.Proofs.Linter.Builtin
import MarkdownStyle.Proofs.Linter.Isolation
import MarkdownStyle.Rule.Listed
import MarkdownStyle.Session

namespace MarkdownStyle

/-! ## Keys -/

/-- The rule that a key stands for: the one of that name, or if no rule has it the first one whose id
is the key in capitals. -/
inductive Registry.Resolves (g : Registry) (key : String) (rule : Rule) : Prop
  | name : rule ∈ g.rules → rule.name = key → Resolves g key rule
  | id (above below : List Rule) : (∀ r ∈ g.rules, r.name ≠ key) → g.rules = above ++ rule :: below →
      rule.id.toList = Text.upper key.toList → (∀ r ∈ above, r.id.toList ≠ Text.upper key.toList) →
      Resolves g key rule

namespace Registry

variable {g : Registry} {key : String} {rule : Rule}

theorem eq_of_name {r : Rule} (h : rule ∈ g.rules) (h' : r ∈ g.rules) (hname : r.name = rule.name) : r = rule :=
  List.inj_on_of_nodup_map g.nodup_names h' h hname

theorem find?_of_name (h : rule ∈ g.rules) (hname : rule.name = key) : g.find? key = some rule := by
  unfold find?
  cases hf : g.rules.find? (·.name == key) with
  | none => exact absurd hname (by simpa using List.find?_eq_none.1 hf rule h)
  | some r =>
    have hr : r.name = key := by simpa using List.find?_some hf
    rw [eq_of_name h (List.mem_of_find?_eq_some hf) (hr.trans hname.symm)]

/-- Where no rule has the key as its name, the ids decide. -/
theorem find?_of_forall_ne (h : ∀ r ∈ g.rules, r.name ≠ key) :
    g.find? key = g.rules.find? fun r => decide (r.id.toList = Text.upper key.toList) := by
  have hnone : g.rules.find? (·.name == key) = none := List.find?_eq_none.2 fun r hr => by simpa using h r hr
  unfold find?
  rw [hnone]
  refine List.find?_congr fun r hr => ?_
  have hne : (key == r.name) = false := by simpa using fun hkey => h r hr hkey.symm
  rw [Rule.matchesKey, hne, Bool.false_or, Bool.beq_eq_decide_eq, decide_eq_decide, eq_comm]

theorem find?_eq_some_iff : g.find? key = some rule ↔ g.Resolves key rule := by
  constructor
  · intro h
    by_cases hname : ∃ r ∈ g.rules, r.name = key
    · obtain ⟨r, hr, hkey⟩ := hname
      rw [find?_of_name hr hkey] at h
      cases h
      exact .name hr hkey
    · push Not at hname
      rw [find?_of_forall_ne hname] at h
      obtain ⟨hid, above, below, hrules, habove⟩ := List.find?_eq_some_iff_append.1 h
      exact .id above below hname hrules (by simpa using hid) fun r hr => by simpa using habove r hr
  · rintro (⟨hr, hkey⟩ | ⟨above, below, hname, hrules, hid, habove⟩)
    · exact find?_of_name hr hkey
    · rw [find?_of_forall_ne hname]
      exact List.find?_eq_some_iff_append.2
        ⟨by simpa using hid, above, below, hrules, fun r hr => by simpa using habove r hr⟩

theorem Resolves.mem (h : g.Resolves key rule) : rule ∈ g.rules := by
  cases h with
  | name hr _ => exact hr
  | id above below _ hrules _ _ => simp [hrules]

theorem find?_eq_none_iff : g.find? key = none ↔ ∀ rule, ¬ g.Resolves key rule := by
  rw [Option.eq_none_iff_forall_ne_some]
  exact forall_congr' fun rule => not_congr find?_eq_some_iff

end Registry

/-! ## One request -/

/-- What a request makes of a rule with its setting. -/
def Request.applyTo (g : Registry) (request : Request) (entry : Rule × Setting) : Rule × Setting :=
  match request with
  | .switch key enabled =>
    if (g.find? key).any (·.name == entry.1.name) then (entry.1, { entry.2 with enabled }) else entry
  | _ => entry

namespace Linter

variable (l : Linter)

theorem serve_switch (key : String) (enabled : Bool) :
    l.serve (.switch key enabled) =
      match l.switch key enabled with
      | .ok l => (l, .switched)
      | .error fault => (l, .refused fault) := by
  cases enabled <;> rfl

theorem serve_of_find?_eq_none {key : String} (h : l.registry.find? key = none) (enabled : Bool) :
    l.serve (.switch key enabled) = (l, .refused (.unknownRule key)) := by
  have hget : l.registry.get key = .error (.unknownRule key) := by
    unfold Registry.get
    rw [h]
  rw [serve_switch, switch, hget]
  rfl

theorem serve_of_find?_eq_some {key : String} {rule : Rule} (h : l.registry.find? key = some rule) (enabled : Bool) :
    l.serve (.switch key enabled) = (l.setEnabled rule.name enabled, .switched) := by
  rw [serve_switch, switch_of_find? h]

theorem registry_serve (request : Request) : (l.serve request).1.registry = l.registry := by
  cases request with
  | switch key enabled =>
    cases h : l.registry.find? key with
    | none => rw [serve_of_find?_eq_none l h]
    | some rule => rw [serve_of_find?_eq_some l h]; rfl
  | lint text path => rfl
  | fix text path => rfl

/-- A request acts on each rule by itself. -/
theorem rules_serve (request : Request) :
    (l.serve request).1.rules = l.rules.map (request.applyTo l.registry) := by
  cases request with
  | switch key enabled =>
    cases h : l.registry.find? key with
    | none =>
      rw [serve_of_find?_eq_none l h]
      exact (List.map_id'' (fun e => by simp [Request.applyTo, h]) _).symm
    | some rule =>
      rw [serve_of_find?_eq_some l h, rules_setEnabled]
      refine List.map_congr_left fun e _ => ?_
      simp only [Request.applyTo, h, Option.any_some, Bool.beq_comm (a := rule.name)]
      split <;> rfl
  | lint text path => exact (List.map_id _).symm
  | fix text path => exact (List.map_id _).symm

/-! ## Sessions -/

theorem registry_after (requests : List Request) : (l.after requests).registry = l.registry := by
  induction requests generalizing l with
  | nil => rfl
  | cons request rest ih => exact (ih _).trans (l.registry_serve request)

theorem rules_after (requests : List Request) :
    (l.after requests).rules = l.rules.map fun e =>
      requests.foldl (fun e request => request.applyTo l.registry e) e := by
  induction requests generalizing l with
  | nil => exact (List.map_id _).symm
  | cons request rest ih =>
    show ((l.serve request).1.after rest).rules = _
    rw [ih, l.registry_serve, l.rules_serve, List.map_map]
    rfl

end Linter

/-- Whether requests leave a rule on: the last one that switches it switches it on, or none does and it
was on before. -/
inductive Registry.LeavesOn (g : Registry) (rule : Rule) (requests : List Request) (before : Bool) : Prop
  | switched (earlier later : List Request) (key : String) :
      requests = earlier ++ .switch key true :: later → g.Resolves key rule →
      (∀ key' enabled, .switch key' enabled ∈ later → ¬ g.Resolves key' rule) → LeavesOn g rule requests before
  | untouched : (∀ key enabled, .switch key enabled ∈ requests → ¬ g.Resolves key rule) → before = true →
      LeavesOn g rule requests before

namespace Registry

variable {g : Registry} {rule : Rule} {rest : List Request} {before : Bool}

theorem leavesOn_nil : g.LeavesOn rule [] before ↔ before = true := by
  constructor
  · rintro (⟨earlier, later, key, h, -, -⟩ | ⟨-, h⟩)
    · simp at h
    · exact h
  · intro h
    exact .untouched (by simp) h

/-- A request that switches the rule makes all before it forgotten. -/
theorem leavesOn_cons_of_resolves {key : String} {enabled : Bool} (h : g.Resolves key rule) :
    g.LeavesOn rule (.switch key enabled :: rest) before ↔ g.LeavesOn rule rest enabled := by
  constructor
  · rintro (⟨_ | ⟨first, earlier⟩, later, key', hsplit, hkey, hlater⟩ | ⟨hnone, -⟩)
    · cases hsplit
      exact .untouched hlater rfl
    · cases hsplit
      exact .switched earlier later key' rfl hkey hlater
    · exact absurd h (hnone key enabled (List.mem_cons_self ..))
  · rintro (⟨earlier, later, key', rfl, hkey, hlater⟩ | ⟨hnone, rfl⟩)
    · exact .switched (.switch key enabled :: earlier) later key' rfl hkey hlater
    · exact .switched [] rest key rfl h hnone

theorem leavesOn_cons_of_not_resolves {request : Request}
    (h : ∀ key enabled, request = .switch key enabled → ¬ g.Resolves key rule) :
    g.LeavesOn rule (request :: rest) before ↔ g.LeavesOn rule rest before := by
  constructor
  · rintro (⟨_ | ⟨first, earlier⟩, later, key, hsplit, hkey, hlater⟩ | ⟨hnone, hbefore⟩)
    · cases hsplit
      exact absurd hkey (h key true rfl)
    · cases hsplit
      exact .switched earlier later key rfl hkey hlater
    · exact .untouched (fun key enabled hmem => hnone key enabled (List.mem_cons_of_mem _ hmem)) hbefore
  · rintro (⟨earlier, later, key, rfl, hkey, hlater⟩ | ⟨hnone, hbefore⟩)
    · exact .switched (request :: earlier) later key rfl hkey hlater
    · refine .untouched (fun key enabled hmem => ?_) hbefore
      rcases List.mem_cons.1 hmem with heq | hmem
      · exact h key enabled heq.symm
      · exact hnone key enabled hmem

end Registry

theorem Request.applyTo_switch {g : Registry} {key : String} {enabled : Bool} {entry : Rule × Setting}
    (h : g.Resolves key entry.1) :
    (Request.switch key enabled).applyTo g entry = (entry.1, { entry.2 with enabled }) := by
  simp [applyTo, Registry.find?_eq_some_iff.2 h]

theorem Request.applyTo_of_not_resolves {g : Registry} {request : Request} {entry : Rule × Setting}
    (hentry : entry.1 ∈ g.rules) (h : ∀ key enabled, request = .switch key enabled → ¬ g.Resolves key entry.1) :
    request.applyTo g entry = entry := by
  cases request with
  | switch key enabled =>
    refine if_neg fun hname => ?_
    obtain ⟨rule, hfind, hname⟩ := (Option.any_eq_true _ _).1 hname
    have hrule := Registry.find?_eq_some_iff.1 hfind
    rw [← Registry.eq_of_name hentry hrule.mem (by simpa using hname)] at h
    exact h key enabled rfl hrule
  | lint text path => rfl
  | fix text path => rfl

/-- Requests change nothing about a rule but whether it is on, and that by the last of them. -/
theorem foldl_applyTo {g : Registry} (requests : List Request) {entry : Rule × Setting} (h : entry.1 ∈ g.rules) :
    let last := requests.foldl (fun e request => request.applyTo g e) entry
    last.1 = entry.1 ∧ last.2.options = entry.2.options ∧
      (last.2.enabled = true ↔ g.LeavesOn entry.1 requests entry.2.enabled) := by
  induction requests generalizing entry with
  | nil => exact ⟨rfl, rfl, Registry.leavesOn_nil.symm⟩
  | cons request rest ih =>
    rw [List.foldl_cons]
    -- a request that switches the rule takes the place of the state before it
    by_cases hswitch : ∃ key enabled, request = .switch key enabled ∧ g.Resolves key entry.1
    · obtain ⟨key, enabled, rfl, hkey⟩ := hswitch
      rw [Request.applyTo_switch hkey, Registry.leavesOn_cons_of_resolves hkey]
      exact @ih (entry.1, { entry.2 with enabled }) h
    · push Not at hswitch
      rw [Request.applyTo_of_not_resolves h hswitch, Registry.leavesOn_cons_of_not_resolves hswitch]
      exact ih h

/-- At any point of a session, the settings are those of the registered rules with the options that they
began with, and each rule is in the state that the last request gave it. Linting and fixing leave
everything as it is, and so does a key that stands for no rule. -/
theorem Linter.after_settings {g : Registry} {config : Mapping} {l : Linter} (h : Linter.ofConfig g config = .ok l)
    (requests : List Request) :
    let later := l.after requests
    later.rules.map Prod.fst = g.rules ∧ (later.rules.map (·.1.name)).Nodup ∧
      List.Forall₂ (fun (old new : Rule × Setting) => new.1 = old.1 ∧ new.2.options = old.2.options ∧
        (new.2.enabled = true ↔ g.LeavesOn old.1 requests old.2.enabled)) l.rules later.rules ∧
      (∀ text path, (later.serve (.lint text path)).1 = later ∧ (later.serve (.fix text path)).1 = later) ∧
      (∀ key enabled rule, g.Resolves key rule → (later.serve (.switch key enabled)).2 = .switched) ∧
      ∀ key enabled, (∀ rule, ¬ g.Resolves key rule) →
        later.serve (.switch key enabled) = (later, .refused (.unknownRule key)) := by
  obtain ⟨rfl, -⟩ := Linter.ofConfig_eq_ok h
  intro later
  have hregistry : later.registry = l.registry := l.registry_after requests
  refine ⟨?_, later.nodup_names_rules, ?_, fun text path => ⟨rfl, rfl⟩, ?_, ?_⟩
  · rw [later.map_fst_rules, hregistry]
  · rw [show later.rules = _ from l.rules_after requests, List.forall₂_map_right_iff, List.forall₂_same]
    intro entry hentry
    have hrule : entry.1 ∈ l.registry.rules := by
      rw [← l.map_fst_rules]
      exact List.mem_map_of_mem hentry
    exact foldl_applyTo requests hrule
  · intro key enabled rule hkey
    rw [later.serve_of_find?_eq_some (hregistry ▸ Registry.find?_eq_some_iff.2 hkey)]
  · intro key enabled hkey
    exact later.serve_of_find?_eq_none (hregistry ▸ Registry.find?_eq_none_iff.2 hkey) enabled

/-- A further rule that has the id of one built-in rule as its name and that of another one as its id. -/
def namesakeRule : Rule where
  id := "HM001"
  name := "HM002"
  description := ""
  tags := []
  severity := .warning
  fixable := false
  defaults := []
  minimums := []
  check := listedCheck none [(1, "Opens here")]

/-- The name goes before the id, the rule registered first before the other one of its id, and a key of
no rule counts for nothing. -/
theorem after_settings_of_namesake :
    ∃ l, Linter.ofConfig ([namesakeRule].foldl Registry.add .builtin) [] = .ok l ∧
      let later := l.after [.switch "HM002" false, .fix "- a".toList "", .switch "HM006" false, .switch "hm001" false]
      later.enabledNames = ["fenced-code-fence-length", "reference-link-section-placement",
          "setext-heading-blank-lines", "heading-sentence-case"] ∧
        (later.rules.map (·.1.name)).Nodup ∧
        later.serve (.switch "HM006" true) = (later, .refused (.unknownRule "HM006")) := by
  refine ⟨_, rfl, by decide, ?_, ?_⟩
  · exact (@Linter.after_settings ([namesakeRule].foldl Registry.add .builtin) [] _ rfl _).2.1
  · refine (@Linter.after_settings ([namesakeRule].foldl Registry.add .builtin) [] _ rfl _).2.2.2.2.2 "HM006" true
      fun rule hrule => ?_
    have hnone : Registry.find? ([namesakeRule].foldl Registry.add .builtin) "HM006" = none := by decide
    exact Registry.find?_eq_none_iff.1 hnone rule hrule

end MarkdownStyle
