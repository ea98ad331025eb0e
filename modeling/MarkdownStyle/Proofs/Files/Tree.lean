/-
Writing to a file of a tree. What stands where is all that following a path and reading a file look at;
writing puts other bytes in one place and leaves everything else as it is, so every path leads to where
it led before.
-/
import MarkdownStyle.Files.Tree
import MarkdownStyle.Proofs.Lookup

namespace MarkdownStyle

/-! ## What stands where -/

namespace Entry

/-- The bytes of a file. -/
def content? : Entry → Option Bytes
  | file content => some content
  | directory _ => none

/-- What stands at the end of a list of names: nothing, a directory, or a file with its bytes. -/
def look (e : Entry) (names : List String) : Option (Option Bytes) := (e.at? names).map content?

variable {e : Entry} {name : String} {names rest : List String}

theorem look_nil (e : Entry) : e.look [] = some e.content? := rfl

theorem at?_cons (e : Entry) (name : String) (rest : List String) :
    e.at? (name :: rest) = (e.entries.lookup name).bind (·.at? rest) := by
  rw [at?]
  cases e.entries.lookup name <;> rfl

theorem look_cons (e : Entry) (name : String) (rest : List String) :
    e.look (name :: rest) = (e.entries.lookup name).bind (·.look rest) := by
  rw [look, at?_cons]
  cases e.entries.lookup name <;> rfl

theorem at?_append (e : Entry) (names rest : List String) :
    e.at? (names ++ rest) = (e.at? names).bind (·.at? rest) := by
  induction names generalizing e with
  | nil => rfl
  | cons name names ih =>
    rw [List.cons_append, at?_cons, at?_cons]
    cases e.entries.lookup name with
    | none => rfl
    | some child => exact ih child

/-- A file stands at the end of the names. -/
theorem look_eq_file_iff {content : Bytes} :
    e.look names = some (some content) ↔ e.at? names = some (.file content) := by
  unfold look
  cases e.at? names with
  | none => simp
  | some found => cases found <;> simp [content?]

theorem look_eq_directory_iff : e.look names = some none ↔ ∃ entries, e.at? names = some (.directory entries) := by
  unfold look
  cases e.at? names with
  | none => simp
  | some found => cases found <;> simp [content?]

theorem lookup_setChild (entries : List (String × Entry)) (name other : String) (e : Entry) :
    (setChild entries name e).lookup other = if other = name then some e else entries.lookup other := by
  induction entries with
  | nil => rw [setChild, lookup_cons_eq]
  | cons entry rest ih =>
    obtain ⟨n, old⟩ := entry
    rw [setChild]
    by_cases hn : n = name
    · rw [if_pos (by simpa using hn), lookup_cons_eq, lookup_cons_eq, hn]
      split <;> rfl
    · rw [if_neg (by simpa using hn), lookup_cons_eq, lookup_cons_eq, ih]
      by_cases h : other = n
      · rw [if_pos h, if_pos h, if_neg fun he => hn (h.symm.trans he)]
      · rw [if_neg h, if_neg h]

/-- Putting a file in the place of another one changes nothing elsewhere. -/
theorem look_put {old : Bytes} {place : List String} (h : e.look place = some (some old)) (new : Bytes)
    (names : List String) :
    (e.put (.file new) place).look names = if names = place then some (some new) else e.look names := by
  induction place generalizing e names with
  | nil =>
    obtain ⟨content, rfl⟩ : ∃ content, e = .file content := by
      cases e with
      | file content => exact ⟨content, rfl⟩
      | directory entries => cases h
    cases names with
    | nil => rfl
    | cons name rest => rw [put, look_cons, look_cons, if_neg (List.cons_ne_nil _ _)]; rfl
  | cons first below ih =>
    rw [look_cons] at h
    obtain ⟨child, hchild, hbelow⟩ := Option.bind_eq_some_iff.1 h
    rw [put, hchild, Option.getD_some]
    cases names with
    | nil =>
      rw [if_neg (List.cons_ne_nil _ _).symm, look_nil, look_nil]
      cases e with
      | file content => cases hchild
      | directory entries => rfl
    | cons name rest =>
      rw [look_cons, look_cons]
      show ((setChild e.entries first _).lookup name).bind _ = _
      rw [lookup_setChild]
      by_cases hn : name = first
      · rw [if_pos hn, Option.bind_some, ih hbelow, hn, hchild, Option.bind_some]
        simp only [List.cons.injEq, true_and]
      · rw [if_neg hn, if_neg (by simp [hn])]

end Entry

/-! ## Following paths -/

namespace FileTree

def look (t : FileTree) (names : List String) : Option (Option Bytes) := t.top.look names

variable {t t' : FileTree} {place : List String} {p : Path}

/-- Two trees with files and directories in the same places, but maybe with other bytes in the files. -/
structure SameShape (t t' : FileTree) : Prop where
  current : t'.current = t.current
  label : t'.label = t.label
  look : ∀ names, (t'.look names).map Option.isSome = (t.look names).map Option.isSome

theorem SameShape.refl (t : FileTree) : SameShape t t := ⟨rfl, rfl, fun _ => rfl⟩

theorem SameShape.trans {t'' : FileTree} (h : SameShape t t') (h' : SameShape t' t'') : SameShape t t'' :=
  ⟨h'.current.trans h.current, h'.label.trans h.label, fun names => (h'.look names).trans (h.look names)⟩

/-- One step along a path, told by what stands in the places. -/
theorem follow_cons (t : FileTree) (place : List String) (name : String) (rest : List String) :
    t.follow place (name :: rest) =
      match t.look place with
      | none => .error .missing
      | some (some _) => .error .notDirectory
      | some none =>
        if name = "" ∨ name = Path.here then t.follow place rest
        else if name = Path.above then
          match t.above? place with
          | some place => t.follow place rest
          | none => .error .missing
        else if (t.look (place ++ [name])).isSome then t.follow (place ++ [name]) rest
        else .error .missing := by
  have hstep : t.look (place ++ [name]) = (t.top.at? place).bind fun e => e.look [name] := by
    rw [look, Entry.look, Entry.at?_append]
    cases t.top.at? place <;> rfl
  rw [follow, hstep]
  unfold look Entry.look
  cases hat : t.top.at? place with
  | none => rfl
  | some e =>
    cases e with
    | file content => rfl
    | directory entries =>
      have hchild : (entries.lookup name).isSome =
          (((Entry.directory entries).at? [name]).map Entry.content?).isSome := by
        rw [Entry.at?_cons]
        show _ = (((entries.lookup name).bind _).map _).isSome
        cases entries.lookup name <;> rfl
      refine if_congr ?_ rfl (if_congr beq_iff_eq rfl (if_congr (hchild ▸ Iff.rfl) rfl rfl))
      rw [Bool.or_eq_true, beq_iff_eq, beq_iff_eq]

/-- A path leads to the same place in trees of one shape. -/
theorem SameShape.follow (h : SameShape t t') (place names : List String) :
    t'.follow place names = t.follow place names := by
  induction names generalizing place with
  | nil => rfl
  | cons name rest ih =>
    have hsome : ∀ names, (t'.look names).isSome = (t.look names).isSome := by
      intro names
      have := congrArg Option.isSome (h.look names)
      rwa [Option.isSome_map, Option.isSome_map] at this
    -- a step asks only whether there is a place, and whether it is a directory
    have hplace := h.look place
    have habove : t'.above? place = t.above? place := by rw [above?, above?, isWhole, isWhole, h.label]
    rw [follow_cons, follow_cons, habove, hsome]
    simp only [ih]
    cases ht : t.look place with
    | none =>
      cases ht' : t'.look place with
      | none => rfl
      | some found => rw [ht, ht'] at hplace; cases hplace
    | some found =>
      cases ht' : t'.look place with
      | none => rw [ht, ht'] at hplace; cases hplace
      | some found' =>
        rw [ht, ht', Option.map_some, Option.map_some, Option.some.injEq] at hplace
        cases found <;> cases found' <;> first | rfl | cases hplace

theorem SameShape.locate (h : SameShape t t') (p : Path) : t'.locate p = t.locate p := by
  rw [FileTree.locate, FileTree.locate, FileTree.start, FileTree.start, h.follow, h.current]

/-! ## Reading and writing -/

/-- A path leads to a file with these bytes. -/
structure LeadsToFile (t : FileTree) (p : Path) (place : List String) (bytes : Bytes) : Prop where
  locate : t.locate p = .ok place
  look : t.look place = some (some bytes)

theorem readBytes_eq_ok_iff {bytes : Bytes} :
    t.readBytes p = .ok bytes ↔ ∃ place, t.LeadsToFile p place bytes := by
  unfold readBytes entry?
  constructor
  · intro h
    cases hloc : t.locate p with
    | error e => rw [hloc] at h; cases h
    | ok place =>
      rw [hloc] at h
      cases hat : t.top.at? place with
      | none => simp only [bind, Except.bind, hat] at h; cases h
      | some e =>
        cases e with
        | directory entries => simp only [bind, Except.bind, hat] at h; cases h
        | file content =>
          simp only [bind, Except.bind, hat] at h
          cases h
          exact ⟨place, hloc, Entry.look_eq_file_iff.2 hat⟩
  · rintro ⟨place, hloc, hlook⟩
    have hat := Entry.look_eq_file_iff.1 hlook
    simp only [hloc, bind, Except.bind, hat]
    rfl

theorem LeadsToFile.readText {bytes : Bytes} (h : t.LeadsToFile p place bytes) :
    t.readText p = match Text.decode bytes with
      | .ok text => .ok (Text.unifyBreaks text)
      | .error e => .error (.undecodable e) := by
  unfold FileTree.readText
  rw [readBytes_eq_ok_iff.2 ⟨place, h⟩]
  rfl

theorem LeadsToFile.bytes_eq {q : Path} {bytes bytes' : Bytes} (h : t.LeadsToFile p place bytes)
    (h' : t.LeadsToFile q place bytes') : bytes' = bytes := by
  have hlook := h'.look
  rw [h.look, Option.some.injEq, Option.some.injEq] at hlook
  exact hlook.symm

/-- Two trees that differ at most in the bytes of one file, which the second one has. -/
structure Rewritten (t t' : FileTree) (place : List String) (bytes : Bytes) : Prop where
  shape : t.SameShape t'
  look : ∀ names, t'.look names = if names = place then some (some bytes) else t.look names

theorem LeadsToFile.rewritten_self {bytes : Bytes} (h : t.LeadsToFile p place bytes) : t.Rewritten t place bytes where
  shape := .refl t
  look names := by
    split
    · rename_i hn
      rw [hn, h.look]
    · rfl

theorem label_writeText (t : FileTree) (p : Path) (text : Text) : (t.writeText p text).label = t.label := by
  unfold writeText
  split <;> rfl

theorem current_writeText (t : FileTree) (p : Path) (text : Text) : (t.writeText p text).current = t.current := by
  unfold writeText
  split <;> rfl

/-- Writing to a file changes its bytes and nothing else. -/
theorem LeadsToFile.rewritten_writeText {bytes : Bytes} (h : t.LeadsToFile p place bytes) (text : Text) :
    t.Rewritten (t.writeText p text) place (Text.encode text) := by
  have hlook : ∀ names, (t.writeText p text).look names =
      if names = place then some (some (Text.encode text)) else t.look names := by
    unfold writeText
    rw [h.locate]
    exact Entry.look_put h.look (Text.encode text)
  refine ⟨⟨t.current_writeText p text, t.label_writeText p text, fun names => ?_⟩, hlook⟩
  rw [hlook]
  split
  · rename_i hn
    rw [hn, h.look]
    rfl
  · rfl

/-- After one file is rewritten every path leads to the file that it led to. -/
theorem Rewritten.leadsToFile {bytes bytesQ : Bytes} (h : t.Rewritten t' place bytes) {q : Path} {placeQ : List String}
    (hq : t.LeadsToFile q placeQ bytesQ) : t'.LeadsToFile q placeQ (if placeQ = place then bytes else bytesQ) where
  locate := (h.shape.locate q).trans hq.locate
  look := by
    rw [h.look, hq.look]
    split <;> rfl

end FileTree

end MarkdownStyle
