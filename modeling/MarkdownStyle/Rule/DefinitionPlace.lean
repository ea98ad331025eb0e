/-
The rule on the place of link definitions. Where a misplaced definition should go is a matter of
judgment, so there is no edit.
-/
import MarkdownStyle.Reference.Placement
import MarkdownStyle.Rule.Basic

namespace MarkdownStyle

def Misplaced.finding (m : Misplaced) : Finding := ⟨m.line, m.detail, m.excerpt, none⟩

def definitionPlaceRule : Rule where
  id := "HM003"
  name := "reference-link-section-placement"
  description := "Reference link definitions should appear at the end of their content block"
  tags := ["links", "references"]
  severity := .error
  fixable := false
  defaults := []
  minimums := []
  check d _ := .ok ((misplacedDefinitions d.classified (blocks d.classified)).map Misplaced.finding)

end MarkdownStyle
