/-
Options laid over the defaults of a rule. Every entry that a user gives is looked at, whatever comes
before it, so the options are refused exactly if one entry names no option, has a value of another
kind than the default, or is below a minimum. Otherwise each default keeps its place and has the last
value that was given for it.
-/
import MarkdownStyle.Proofs.Lookup
import MarkdownStyle.Proofs.Rule.Options

namespace MarkdownStyle

/-! ## Entries that a rule takes -/

/-- An entry of options that a rule takes: an integer that is not below a minimum, a truth value or a
list of strings, where the default is one. -/
inductive Rule.Takes (r : Rule) : Value × Value → Prop
  | integer {name : String} {default n : Int} : (.str name, .int default) ∈ r.defaults →
    (∀ minimum, (name, minimum) ∈ r.minimums → minimum ≤ n) → r.Takes (.str name, .int n)
  | flag {name : String} {default b : Bool} : (.str name, .bool default) ∈ r.defaults →
    r.Takes (.str name, .bool b)
  | strings {name : String} {default items : List Value} : (.str name, .list default) ∈ r.defaults →
    (∀ item ∈ items, ∃ s, item = .str s) → r.Takes (.str name, .list items)

/-- The options of a rule have different names and defaults that the rule itself would take; integers
have at most one minimum each, and nothing else has one. -/
structure Rule.Regular (r : Rule) : Prop where
  takes : ∀ e ∈ r.defaults, r.Takes e
  distinct : r.defaults.Pairwise fun a b => a.1 ≠ b.1
  minimum : ∀ m ∈ r.minimums, ∃ default, (.str m.1, .int default) ∈ r.defaults
  nodup_minimums : (r.minimums.map Prod.fst).Nodup

theorem Rule.Takes.key {r : Rule} {e : Value × Value} (h : r.Takes e) :
    ∃ name default, e.1 = .str name ∧ (.str name, default) ∈ r.defaults := by
  cases h with
  | integer hd _ => exact ⟨_, _, rfl, hd⟩
  | flag hd => exact ⟨_, _, rfl, hd⟩
  | strings hd _ => exact ⟨_, _, rfl, hd⟩

/-! ## Mappings with different string keys -/

/-- All keys are strings, and no two of them are the same. -/
structure Mapping.Keyed (m : Mapping) : Prop where
  key : ∀ e ∈ m, ∃ name, e.1 = .str name
  distinct : m.Pairwise fun a b => a.1 ≠ b.1

theorem Rule.Regular.keyed {r : Rule} (h : r.Regular) : Mapping.Keyed r.defaults where
  key e he := by
    obtain ⟨name, -, hname, -⟩ := (h.takes e he).key
    exact ⟨name, hname⟩
  distinct := h.distinct

namespace Mapping.Keyed

variable {m : Mapping} {name : String} {key value : Value}

theorem of_cons {e : Value × Value} (h : Keyed (e :: m)) :
    (∃ name, e.1 = .str name) ∧ (∀ x ∈ m, x.1 ≠ e.1) ∧ Keyed m := by
  obtain ⟨hne, hrest⟩ := List.pairwise_cons.1 h.distinct
  exact ⟨h.key e (List.mem_cons_self ..), fun x hx hsame => hne x hx hsame.symm,
    fun x hx => h.key x (List.mem_cons_of_mem _ hx), hrest⟩

/-- The keys stay what they are under new values. -/
theorem map_values (h : Keyed m) (f : Value × Value → Value) : Keyed (m.map fun e => (e.1, f e)) where
  key e he := by
    obtain ⟨d, hd, rfl⟩ := List.mem_map.1 he
    exact h.key d hd
  distinct := by
    rw [List.pairwise_map]
    exact h.distinct

/-- Looking a key up finds its entry. -/
theorem get?_eq_some_iff (h : Keyed m) : Mapping.get? m key = some value ↔ (key, value) ∈ m := by
  induction m with
  | nil => simp [Mapping.get?]
  | cons e m ih =>
    obtain ⟨⟨name, hname⟩, hne, hm⟩ := h.of_cons
    obtain ⟨k, v⟩ := e
    cases hname
    rw [Mapping.get?_cons, List.mem_cons, Prod.mk.injEq]
    by_cases hkey : key = .str name
    · have hnot : (key, value) ∉ m := fun hmem => hne _ hmem hkey
      rw [if_pos (Value.str_sameKey.2 hkey)]
      simp [hkey, eq_comm, hkey ▸ hnot]
    · rw [if_neg (mt Value.str_sameKey.1 hkey), ih hm]
      simp [hkey]

/-- Giving a key another value leaves everything in its place. -/
theorem insert_eq_map (h : Keyed m) (hm : ∃ v, (Value.str name, v) ∈ m) (value : Value) :
    Mapping.insert m (.str name) value = m.map fun e => (e.1, if e.1.sameKey (.str name) then value else e.2) := by
  induction m with
  | nil =>
    obtain ⟨v, hv⟩ := hm
    cases hv
  | cons e m ih =>
    obtain ⟨-, hne, hkeyed⟩ := h.of_cons
    rw [Mapping.insert, List.map_cons]
    by_cases hname : e.1 = .str name
    · have hrest : ∀ x ∈ m, (x.1, if x.1.sameKey (.str name) then value else x.2) = x := by
        intro x hx
        rw [if_neg]
        rw [Value.sameKey_str, ← hname]
        exact hne x hx
      rw [if_pos (Value.sameKey_str.2 hname), if_pos (Value.sameKey_str.2 hname),
        List.map_congr_left hrest, List.map_id']
    · obtain ⟨v, hv⟩ := hm
      have hv : (Value.str name, v) ∈ m := (List.mem_cons.1 hv).resolve_left fun h => hname (by rw [← h])
      rw [if_neg (mt Value.sameKey_str.1 hname), if_neg (mt Value.sameKey_str.1 hname), ih hkeyed ⟨v, hv⟩]

end Mapping.Keyed

/-! ## The last value -/

/-- Whether a value is a string that passes a test. -/
def Value.isString (v : Value) (test : String → Bool) : Bool :=
  match v with
  | .str s => test s
  | _ => false

theorem Value.isString_iff {v : Value} {test : String → Bool} :
    v.isString test = true ↔ ∃ s, v = .str s ∧ test s = true := by
  cases v <;> simp [isString]

/-- The value that a mapping gives last under the string keys that pass a test. -/
def Mapping.lastUnder (m : Mapping) (test : String → Bool) : Option Value :=
  (m.reverse.find? (·.1.isString test)).map Prod.snd

/-- The mapping with the values that others give last for its keys, each in its place. -/
def Mapping.overlaid (m entries : Mapping) : Mapping :=
  m.map fun e => (e.1, (entries.lastUnder fun s => e.1.sameKey (.str s)).getD e.2)

namespace Mapping

theorem lastUnder_append (m n : Mapping) (test : String → Bool) :
    lastUnder (m ++ n) test = (n.lastUnder test).or (m.lastUnder test) := by
  unfold lastUnder
  rw [List.reverse_append, List.find?_append, Option.map_or]

theorem lastUnder_cons (e : Value × Value) (m : Mapping) (test : String → Bool) :
    lastUnder (e :: m) test = (m.lastUnder test).or (if e.1.isString test then some e.2 else none) := by
  rw [← List.singleton_append, lastUnder_append]
  congr 1
  unfold lastUnder
  rw [List.reverse_singleton, List.find?_singleton]
  cases e.1.isString test <;> rfl

theorem mem_of_lastUnder {m : Mapping} {test : String → Bool} {value : Value} (h : m.lastUnder test = some value) :
    ∃ key, test key = true ∧ (.str key, value) ∈ m := by
  obtain ⟨⟨k, v⟩, he, rfl⟩ := Option.map_eq_some_iff.1 h
  have htest : k.isString test = true := List.find?_some (p := fun e : Value × Value => e.1.isString test) he
  obtain ⟨key, rfl, htest⟩ := Value.isString_iff.1 htest
  exact ⟨key, htest, List.mem_reverse.1 (List.mem_of_find?_eq_some he)⟩

theorem lastUnder_congr {m : Mapping} {test test' : String → Bool}
    (h : ∀ key value, (.str key, value) ∈ m → test key = test' key) : m.lastUnder test = m.lastUnder test' := by
  unfold lastUnder
  congr 1
  refine List.find?_congr fun e he => ?_
  obtain ⟨k, value⟩ := e
  cases k with
  | str key => exact h key value (List.mem_reverse.1 he)
  | _ => rfl

/-- Giving known keys their values one after the other leaves the last ones. -/
theorem foldl_insert_eq_overlaid {m entries : Mapping} (h : Keyed m)
    (hall : ∀ e ∈ entries, ∃ name default, e.1 = .str name ∧ (.str name, default) ∈ m) :
    entries.foldl (fun m e => Mapping.insert m e.1 e.2) m = m.overlaid entries := by
  induction entries generalizing m with
  | nil =>
    conv_lhs => rw [List.foldl_nil, ← List.map_id m]
    rfl
  | cons e entries ih =>
    obtain ⟨⟨name, default, hname, hdefault⟩, hrest⟩ := List.forall_mem_cons.1 hall
    obtain ⟨k, value⟩ := e
    cases hname
    rw [List.foldl_cons, h.insert_eq_map ⟨default, hdefault⟩, ih]
    · unfold overlaid
      rw [List.map_map]
      refine List.map_congr_left fun d hd => ?_
      rw [lastUnder_cons, Function.comp_apply]
      cases Mapping.lastUnder entries fun s => d.1.sameKey (.str s) with
      | some later => rfl
      | none => rw [Value.isString]; cases d.1.sameKey (.str name) <;> rfl
    · exact h.map_values _
    · intro x hx
      obtain ⟨other, d, hother, hd⟩ := hrest x hx
      exact ⟨other, _, hother, List.mem_map.2 ⟨_, hd, rfl⟩⟩

end Mapping

/-! ## Options over defaults -/

namespace Rule

variable {r : Rule} {o o' : Options} {e : Value × Value} {entries : Mapping}

/-- The minimum of an option. -/
theorem Regular.minimum?_eq_some_iff (h : r.Regular) {name : String} {minimum : Int} :
    r.minimum? (.str name) = some minimum ↔ (name, minimum) ∈ r.minimums :=
  lookup_eq_some_iff_mem h.nodup_minimums

theorem takes_iff (h : r.Regular) {key value : Value} :
    r.Takes (key, value) ↔ ∃ default, Mapping.get? r.defaults key = some default ∧ default.fits value = true ∧
      ∀ minimum, r.minimum? key = some minimum → value.isBelow minimum = false := by
  constructor
  · intro he
    cases he with
    | integer hd hmin =>
      refine ⟨_, h.keyed.get?_eq_some_iff.2 hd, rfl, fun minimum hm => ?_⟩
      have := hmin minimum (h.minimum?_eq_some_iff.1 hm)
      simpa [Value.isBelow, Value.integer?] using this
    | flag hd =>
      refine ⟨_, h.keyed.get?_eq_some_iff.2 hd, rfl, fun minimum hm => ?_⟩
      -- a truth value has no minimum
      obtain ⟨default, hint⟩ := h.minimum _ (h.minimum?_eq_some_iff.1 hm)
      have := (h.keyed.get?_eq_some_iff.2 hd).symm.trans (h.keyed.get?_eq_some_iff.2 hint)
      cases this
    | strings hd hitems =>
      refine ⟨_, h.keyed.get?_eq_some_iff.2 hd, ?_, fun minimum hm => rfl⟩
      rw [Value.fits, List.all_eq_true]
      intro item hitem
      obtain ⟨s, rfl⟩ := hitems item hitem
      rfl
  · rintro ⟨default, hget, hfits, hmin⟩
    have hd := h.keyed.get?_eq_some_iff.1 hget
    cases h.takes _ hd with
    | integer _ _ =>
      obtain ⟨n, rfl⟩ := Value.fits_int hfits
      refine .integer hd fun minimum hm => ?_
      simpa [Value.isBelow, Value.integer?] using hmin minimum (h.minimum?_eq_some_iff.2 hm)
    | flag _ =>
      cases value with
      | bool b => exact .flag hd
      | _ => cases hfits
    | strings _ _ =>
      cases value with
      | list items =>
        rw [Value.fits, List.all_eq_true] at hfits
        refine .strings hd fun item hitem => ?_
        have := hfits item hitem
        cases item with
        | str s => exact ⟨s, rfl⟩
        | _ => cases this
      | _ => cases hfits

/-- An entry is laid over the options so far if it is taken, whatever they are. -/
theorem layOption_eq_ok_iff (h : r.Regular) :
    r.layOption o e = .ok o' ↔ r.Takes e ∧ o' = Mapping.insert o e.1 e.2 := by
  obtain ⟨key, value⟩ := e
  rw [takes_iff h]
  constructor
  · intro hok
    obtain ⟨default, hd, hfits, hmin, ho⟩ := layOption_eq_ok hok
    exact ⟨⟨default, hd, hfits, hmin⟩, ho⟩
  · rintro ⟨⟨default, hd, hfits, hmin⟩, rfl⟩
    unfold layOption
    simp only [hd, hfits, Bool.not_true, Bool.false_eq_true, if_false]
    cases hm : r.minimum? key with
    | none => rfl
    | some minimum => simp [hmin minimum hm]

/-- Options are accepted exactly if each entry is taken, and then they are laid over the defaults. -/
theorem effectiveOptions_eq_ok_iff (h : r.Regular) :
    r.effectiveOptions entries = .ok o ↔ (∀ e ∈ entries, r.Takes e) ∧ o = r.defaults.overlaid entries := by
  have hfold : ∀ start, entries.foldlM r.layOption start = .ok o ↔
      (∀ e ∈ entries, r.Takes e) ∧ o = entries.foldl (fun o e => Mapping.insert o e.1 e.2) start := by
    intro start
    induction entries generalizing start with
    | nil => simp [pure, Except.pure, eq_comm]
    | cons e entries ih =>
      rw [List.foldlM_cons, List.forall_mem_cons, List.foldl_cons]
      constructor
      · intro hok
        cases he : r.layOption start e with
        | error fault => rw [he] at hok; cases hok
        | ok next =>
          rw [he] at hok
          obtain ⟨htakes, rfl⟩ := (layOption_eq_ok_iff h).1 he
          obtain ⟨hall, ho⟩ := (ih _).1 hok
          exact ⟨⟨htakes, hall⟩, ho⟩
      · rintro ⟨⟨htakes, hall⟩, ho⟩
        rw [(layOption_eq_ok_iff h).2 ⟨htakes, rfl⟩]
        exact (ih _).2 ⟨hall, ho⟩
  unfold effectiveOptions
  rw [hfold]
  refine and_congr_right fun hall => ?_
  rw [Mapping.foldl_insert_eq_overlaid h.keyed]
  exact fun e he => (hall e he).key

/-- What is laid over the defaults holds a value for each of them that the rule takes. -/
theorem takes_of_effectiveOptions (h : r.Regular) (ho : r.effectiveOptions entries = .ok o) {key default : Value}
    (hd : (key, default) ∈ r.defaults) : ∃ value, Mapping.get? o key = some value ∧ r.Takes (key, value) := by
  obtain ⟨hall, rfl⟩ := (effectiveOptions_eq_ok_iff h).1 ho
  refine ⟨_, (h.keyed.map_values _).get?_eq_some_iff.2 (List.mem_map.2 ⟨(key, default), hd, rfl⟩), ?_⟩
  cases hlast : Mapping.lastUnder entries fun s => key.sameKey (.str s) with
  | none => exact h.takes _ hd
  | some value =>
    obtain ⟨name, hname, hmem⟩ := Mapping.mem_of_lastUnder hlast
    rw [Value.sameKey_str.1 hname]
    exact hall _ hmem

end Rule

/-! ## Built-in rules -/

theorem dashItemRule_regular : dashItemRule.Regular where
  takes := by
    simp only [dashItemRule, List.forall_mem_cons]
    exact ⟨.integer (.head _) (by simp), .integer (.tail _ (.head _)) (by simp), by simp⟩
  distinct := by simp [dashItemRule]
  minimum := by simp [dashItemRule]
  nodup_minimums := by decide

theorem fenceRule_regular : fenceRule.Regular where
  takes := by
    simp only [fenceRule, List.forall_mem_cons]
    exact ⟨.integer (.head _) (by simp), by simp⟩
  distinct := by simp [fenceRule]
  minimum := by simp [fenceRule]
  nodup_minimums := by decide

theorem definitionPlaceRule_regular : definitionPlaceRule.Regular where
  takes _ he := absurd he List.not_mem_nil
  distinct := .nil
  minimum _ hm := absurd hm List.not_mem_nil
  nodup_minimums := .nil

theorem blankLineRule_regular : blankLineRule.Regular where
  takes := by
    simp only [blankLineRule, List.forall_mem_cons]
    exact ⟨.integer (.head _) (by simp), .integer (.tail _ (.head _)) (by simp), by simp⟩
  distinct := by simp [blankLineRule]
  minimum := by simp [blankLineRule]
  nodup_minimums := by decide

theorem sentenceCaseRule_regular : sentenceCaseRule.Regular where
  takes := by
    simp only [sentenceCaseRule, List.forall_mem_cons]
    exact ⟨.strings (.head _) (by simp), .flag (.tail _ (.head _)), by simp⟩
  distinct := by simp [sentenceCaseRule]
  minimum _ hm := absurd hm List.not_mem_nil
  nodup_minimums := .nil

theorem builtin_regular : ∀ rule ∈ Registry.builtin.rules, rule.Regular := by
  rw [builtin_rules]
  simp only [List.forall_mem_cons]
  exact ⟨dashItemRule_regular, fenceRule_regular, definitionPlaceRule_regular, blankLineRule_regular,
    sentenceCaseRule_regular, by simp⟩

end MarkdownStyle
