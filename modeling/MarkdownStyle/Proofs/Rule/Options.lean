/-
Options that a configuration was accepted with. Laying options over the defaults of a rule keeps
every integer option an integer and not below its minimum, so a check never sees another value.
-/
import MarkdownStyle.Proofs.Linter.Builtin

namespace MarkdownStyle

/-! ## Checked lists -/

theorem forall₂_of_mapM {ε α β : Type} {f : α → Except ε β} :
    ∀ {xs : List α} {ys : List β}, xs.mapM f = .ok ys → List.Forall₂ (fun x y => f x = .ok y) xs ys
  | [], ys, h => by
    rw [List.mapM_nil] at h
    cases h
    exact .nil
  | x :: xs, ys, h => by
    rw [List.mapM_cons] at h
    cases hx : f x with
    | error e => rw [hx] at h; cases h
    | ok y =>
      cases hs : xs.mapM f with
      | error e => rw [hx, hs] at h; cases h
      | ok zs =>
        rw [hx, hs] at h
        cases h
        exact .cons hx (forall₂_of_mapM hs)

theorem mapM_of_forall₂ {ε α β : Type} {f : α → Except ε β} {xs : List α} {ys : List β}
    (h : List.Forall₂ (fun x y => f x = .ok y) xs ys) : xs.mapM f = .ok ys := by
  induction h with
  | nil => rfl
  | cons hx _ ih =>
    rw [List.mapM_cons, hx, ih]
    rfl

theorem mapM_congr {ε α β : Type} {f g : α → Except ε β} {xs : List α} (h : ∀ x ∈ xs, f x = g x) :
    xs.mapM f = xs.mapM g := by
  induction xs with
  | nil => rfl
  | cons x xs ih =>
    obtain ⟨hx, hrest⟩ := List.forall_mem_cons.1 h
    rw [List.mapM_cons, List.mapM_cons, hx, ih hrest]

theorem mapM_isOk {ε α β : Type} {f : α → Except ε β} {xs : List α} :
    (xs.mapM f).isOk = true ↔ ∀ x ∈ xs, (f x).isOk = true := by
  induction xs with
  | nil => simp [pure, Except.pure, Except.isOk, Except.toBool]
  | cons x xs ih =>
    rw [List.mapM_cons, List.forall_mem_cons, ← ih]
    cases f x with
    | error e => simp [bind, Except.bind, Except.isOk, Except.toBool]
    | ok y => cases xs.mapM f <;> simp [bind, Except.bind, pure, Except.pure, Except.isOk, Except.toBool]

/-- What a checked list holds comes from one of the elements that were checked. -/
theorem exists_of_mem_mapM {ε α β : Type} {f : α → Except ε β} {xs : List α} {ys : List β} {y : β}
    (h : xs.mapM f = .ok ys) (hy : y ∈ ys) : ∃ x, f x = .ok y := by
  have hall := forall₂_of_mapM h
  clear h
  induction hall with
  | nil => cases hy
  | cons hx _ ih =>
    rcases List.mem_cons.1 hy with rfl | hy
    · exact ⟨_, hx⟩
    · exact ih hy

theorem foldlM_keeps {ε α β : Type} {f : β → α → Except ε β} {P : β → Prop}
    (hstep : ∀ b a c, P b → f b a = .ok c → P c) :
    ∀ {xs : List α} {b c : β}, P b → xs.foldlM f b = .ok c → P c
  | [], b, c, hb, h => by
    rw [List.foldlM_nil] at h
    cases h
    exact hb
  | a :: xs, b, c, hb, h => by
    rw [List.foldlM_cons] at h
    cases ha : f b a with
    | error e => rw [ha] at h; cases h
    | ok d =>
      rw [ha] at h
      exact foldlM_keeps hstep (hstep b a d hb ha) h

/-! ## Mappings with string keys -/

theorem Value.sameKey_str {value : Value} {s : String} : value.sameKey (.str s) = true ↔ value = .str s := by
  cases value <;> simp [Value.sameKey, Value.integer?]

theorem Value.str_sameKey {value : Value} {s : String} : (Value.str s).sameKey value = true ↔ value = .str s := by
  cases value with
  | str t => simpa [Value.sameKey] using eq_comm
  | _ => simp [Value.sameKey, Value.integer?]

theorem Mapping.get?_cons (entry : Value × Value) (m : Mapping) (key : Value) :
    Mapping.get? (entry :: m) key = if entry.1.sameKey key then some entry.2 else Mapping.get? m key := by
  unfold Mapping.get?
  rw [List.find?_cons]
  split <;> simp_all

theorem Mapping.get?_insert (m : Mapping) (key value : Value) (s : String) :
    Mapping.get? (Mapping.insert m key value) (.str s) =
      if (Value.str s).sameKey key then some value else Mapping.get? m (.str s) := by
  induction m with
  | nil =>
    rw [Mapping.insert, Mapping.get?_cons]
    by_cases h : key = .str s
    · rw [if_pos (Value.sameKey_str.2 h), if_pos (Value.str_sameKey.2 h)]
    · rw [if_neg (mt Value.sameKey_str.1 h), if_neg (mt Value.str_sameKey.1 h)]
  | cons entry rest ih =>
    rw [Mapping.insert, Mapping.get?_cons entry]
    by_cases hk : entry.1 = .str s
    · rw [hk, if_pos (Value.sameKey_str.2 rfl)]
      split
      · rw [Mapping.get?_cons, if_pos (Value.sameKey_str.2 rfl)]
      · rw [Mapping.get?_cons, if_pos (Value.sameKey_str.2 rfl)]
    · have hne := mt Value.sameKey_str.1 hk
      rw [if_neg hne]
      by_cases h : entry.1.sameKey key = true
      · -- the key in place is another one, so what goes there is no value of the string
        have hkey : ¬ (Value.str s).sameKey key = true := by
          rw [Value.str_sameKey]
          rintro rfl
          exact hne h
        rw [if_pos h, if_neg hkey, Mapping.get?_cons, if_neg hne]
      · rw [if_neg h, Mapping.get?_cons, if_neg hne, ih]

theorem Mapping.mem_of_get? {m : Mapping} {key value : Value} (h : Mapping.get? m key = some value) :
    ∃ entry ∈ m, entry.2 = value := by
  unfold Mapping.get? at h
  obtain ⟨entry, he, hv⟩ := Option.map_eq_some_iff.1 h
  exact ⟨entry, List.mem_of_find?_eq_some he, hv⟩

/-! ## Integer options -/

/-- The option holds an integer that is not below the minimum. -/
def Options.AtLeast (o : Options) (key : String) (minimum : Int) : Prop :=
  ∃ n, o.value? key = some (.int n) ∧ minimum ≤ n

theorem Options.AtLeast.int_eq {o : Options} {key : String} {minimum : Int} (h : o.AtLeast key minimum)
    (default : Int) : o.value? key = some (.int (o.int key default)) ∧ minimum ≤ o.int key default := by
  obtain ⟨n, hv, hn⟩ := h
  have : o.int key default = n := by rw [Options.int, hv]; rfl
  rw [this]
  exact ⟨hv, hn⟩

/-- An option is laid over the others if it is known, of the kind of its default and large enough. -/
theorem Rule.layOption_eq_ok {r : Rule} {o o' : Options} {key value : Value}
    (h : r.layOption o (key, value) = .ok o') :
    ∃ default, Mapping.get? r.defaults key = some default ∧ default.fits value = true ∧
      (∀ minimum, r.minimum? key = some minimum → value.isBelow minimum = false) ∧
      o' = Mapping.insert o key value := by
  unfold Rule.layOption at h
  simp only at h
  cases hd : Mapping.get? r.defaults key with
  | none => rw [hd] at h; cases h
  | some default =>
    rw [hd] at h
    cases hf : default.fits value with
    | false => simp [hf] at h
    | true =>
      simp only [hf, Bool.not_true, Bool.false_eq_true, if_false] at h
      cases hm : r.minimum? key with
      | none =>
        rw [hm] at h
        cases h
        exact ⟨default, rfl, hf, by simp, rfl⟩
      | some minimum =>
        rw [hm] at h
        cases hb : value.isBelow minimum with
        | true => simp [hb] at h
        | false =>
          simp only [hb, Bool.false_eq_true, if_false] at h
          cases h
          exact ⟨default, rfl, hf, by simpa using hb, rfl⟩

theorem Value.fits_int {n : Int} {value : Value} (h : (Value.int n).fits value = true) : ∃ m, value = .int m := by
  cases value with
  | int m => exact ⟨m, rfl⟩
  | _ => cases h

theorem Rule.layOption_keeps {r : Rule} {key : String} {default minimum : Int}
    (hd : Mapping.get? r.defaults (.str key) = some (.int default)) (hm : r.minimums.lookup key = some minimum)
    (o : Options) (entry : Value × Value) (o' : Options) (ho : o.AtLeast key minimum)
    (h : r.layOption o entry = .ok o') : o'.AtLeast key minimum := by
  obtain ⟨k, value⟩ := entry
  obtain ⟨d, hk, hf, hb, rfl⟩ := Rule.layOption_eq_ok h
  unfold Options.AtLeast Options.value?
  rw [Mapping.get?_insert]
  split
  · rename_i hs
    rw [Value.str_sameKey] at hs
    subst hs
    rw [hd] at hk
    cases hk
    obtain ⟨n, rfl⟩ := Value.fits_int hf
    exact ⟨n, rfl, by simpa [Value.isBelow, Value.integer?] using hb minimum hm⟩
  · exact ho

/-- An accepted integer option is not below its minimum. -/
theorem Rule.effectiveOptions_atLeast {r : Rule} {entries : Mapping} {o : Options} {key : String}
    {default minimum : Int} (h : r.effectiveOptions entries = .ok o)
    (hd : Mapping.get? r.defaults (.str key) = some (.int default)) (hm : r.minimums.lookup key = some minimum)
    (hle : minimum ≤ default) : o.AtLeast key minimum :=
  foldlM_keeps (P := fun o => Options.AtLeast o key minimum) (r.layOption_keeps hd hm) ⟨default, hd, hle⟩ h

theorem Rule.setting_eq_ok {r : Rule} {value : Value} {setting : Setting} (h : r.setting value = .ok setting) :
    ∃ entries, r.effectiveOptions entries = .ok setting.options := by
  have hmap : ∀ {entries enabled},
      (r.effectiveOptions entries).map (fun o => (⟨enabled, o⟩ : Setting)) = .ok setting →
        r.effectiveOptions entries = .ok setting.options := by
    intro entries enabled h
    cases ho : r.effectiveOptions entries with
    | error e => rw [ho] at h; cases h
    | ok o => rw [ho] at h; cases h; rfl
  cases value with
  | bool enabled => exact ⟨[], hmap h⟩
  | map entries => exact ⟨entries, hmap h⟩
  | _ => cases h

/-- The options that a linter runs a rule under were accepted by the rule. -/
theorem Linter.exists_effectiveOptions {g : Registry} {config : Mapping} {l : Linter}
    (h : Linter.ofConfig g config = .ok l) {rule : Rule} {setting : Setting} (hm : (rule, setting) ∈ l.rules) :
    ∃ entries, rule.effectiveOptions entries = .ok setting.options := by
  obtain ⟨rfl, hs⟩ := Linter.ofConfig_eq_ok h
  unfold settingsFor at hs
  cases hl : layered l.registry houseStyle config with
  | error e => rw [hl] at hs; cases hs
  | ok layer =>
    rw [hl] at hs
    exact Rule.setting_eq_ok ((List.forall₂_iff_zip.1 (forall₂_of_mapM hs)).2 hm)

end MarkdownStyle
