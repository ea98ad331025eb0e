/-
The arguments of a check. They are accepted only if every path among them leads somewhere.
-/
import MarkdownStyle.Command.Arguments
import MarkdownStyle.Proofs.Files.Collect
import MarkdownStyle.Proofs.Rule.Options

namespace MarkdownStyle

variable {t : FileTree} {arguments : List String}

theorem has_of_existingPath {directories : Bool} {s : String} {p : Path} (h : existingPath t directories s = .ok p) :
    t.Has p := by
  unfold existingPath at h
  cases hw : t.written? s with
  | error e => rw [hw] at h; cases h
  | ok e =>
    have hp : Path.ofString s = p := by
      rw [hw] at h
      simp only at h
      split at h
      · cases h
      · exact Except.ok.inj h
    unfold FileTree.written? at hw
    split at hw
    · cases hw
    · cases hf : t.follow (t.start (.ofString s)) (Path.pieces s) with
      | error e => simp only [hf, bind, Except.bind] at hw; cases hw
      | ok place =>
        simp only [hf, bind, Except.bind] at hw
        cases hat : t.top.at? place with
        | none => rw [hat] at hw; cases hw
        | some found =>
          refine ⟨place, ?_, by rw [FileTree.look, Entry.look, hat]; rfl⟩
          rw [← hp]
          exact FileTree.follow_filter hf

namespace Command

/-- A command that is a check. -/
def IsCheck : Command → Prop
  | check .. => True
  | _ => False

variable {c : CheckOptions}

theorem has_of_checkOf (h : checkOf t arguments = .ok (.check c)) : ∀ p ∈ c.paths, t.Has p := by
  unfold checkOf at h
  intro p hp
  cases hs : sortArguments ⟨["--fix", "--json", helpFlag], ["--config", "--enable", "--disable"]⟩ arguments with
  | error e => simp only [hs, bind, Except.bind] at h; cases h
  | ok s =>
    simp only [hs, bind, Except.bind] at h
    split at h
    · cases h
    · cases hpaths : s.others.mapM (existingPath t true) with
      | error e => rw [hpaths] at h; cases h
      | ok found =>
        rw [hpaths] at h
        simp only at h
        cases hconfig : optionalPath t (s.value? "--config") with
        | error e => rw [hconfig] at h; cases h
        | ok config =>
          rw [hconfig] at h
          cases h
          obtain ⟨written, hwritten⟩ := exists_of_mem_mapM hpaths hp
          exact has_of_existingPath hwritten

/-- The other commands read no check. -/
theorem not_check_of_others {c : Command}
    (h : rulesOf t arguments = .ok c ∨ blocksOf t arguments = .ok c ∨ outlineOf t arguments = .ok c) :
    ¬ c.IsCheck := by
  simp only [rulesOf, blocksOf, outlineOf, bind, Except.bind, pure, Except.pure] at h
  rcases h with h | h | h <;> (repeat' split at h) <;> cases h <;> exact id

/-- The options in front of a command ask for no check. -/
theorem not_check_of_leading {asked : Option Command} (hasked : ∀ c ∈ asked, ¬ c.IsCheck) {c : Command}
    {rest : List String} (h : leading asked arguments = .ok (some c, rest)) : ¬ c.IsCheck := by
  induction arguments generalizing asked with
  | nil =>
    rw [leading] at h
    cases h
    exact hasked c rfl
  | cons argument more ih =>
    -- of two options that ask for something the first one counts
    have hor : ∀ {c : Command}, ¬ c.IsCheck → ∀ d ∈ asked <|> some c, ¬ d.IsCheck := by
      intro c hc d hd
      cases asked with
      | none => cases hd; exact hc
      | some a => exact hasked d hd
    rw [leading] at h
    split at h
    · cases h
      exact hasked c rfl
    · split at h
      · exact ih (hor id) h
      · split at h
        · exact ih (hor id) h
        · split at h
          · exact ih hasked h
          · split at h
            · split at h
              · exact ih hasked h
              · cases h
            · cases h
              exact hasked c rfl

/-- The paths that a check is given lead somewhere. -/
theorem has_of_ofArguments (h : ofArguments t arguments = .ok (.check c)) : ∀ p ∈ c.paths, t.Has p := by
  unfold ofArguments at h
  split at h
  · cases h
  · cases hl : leading none arguments with
    | error e => simp only [hl, bind, Except.bind] at h; cases h
    | ok found =>
      obtain ⟨asked, rest⟩ := found
      simp only [hl, bind, Except.bind] at h
      cases asked with
      | some c =>
        cases h
        exact absurd trivial (not_check_of_leading (fun c hc => by cases hc) hl)
      | none =>
        cases rest with
        | nil => cases h
        | cons name rest =>
          change named t name rest = _ at h
          unfold named at h
          split at h
          · exact has_of_checkOf h
          · split at h
            · exact absurd trivial (not_check_of_others (.inl h))
            · split at h
              · exact absurd trivial (not_check_of_others (.inr (.inl h)))
              · split at h
                · exact absurd trivial (not_check_of_others (.inr (.inr h)))
                · cases h

end Command

end MarkdownStyle
