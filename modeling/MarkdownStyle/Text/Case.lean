/-
Letter case of texts under the full mappings, where one character may become several. Only lower
case looks at context: a capital sigma at the end of a word becomes the final sigma.
-/
import MarkdownStyle.Text.Basic
import MarkdownStyle.Text.CaseTable

namespace MarkdownStyle.Text

def isUpperChar (c : Char) : Bool := hasStride uppers c

/-- Whether a text has capitals and, of all cased characters, only capitals. -/
def isUpper (t : Text) : Bool :=
  t.any isUpperChar && !t.any fun c => hasStride lowers c || hasStride titles c

def upper (t : Text) : Text := t.flatMap upperMap.image

/-- The form in which texts that differ only in case agree. -/
def foldCase (t : Text) : Text := t.flatMap foldMap.image

/-- Whether the nearest character that context does not look through has case. -/
def meetsCased (t : Text) : Bool :=
  match t.dropWhile ignorables.has with
  | [] => false
  | c :: _ => caseds.has c

/-- Lower case of the rest of a text, given what stands before it in reverse order. -/
def lowerAfter (before : Text) : Text → Text
  | [] => []
  | c :: rest =>
    (if c == 'Σ' then [if meetsCased before && !meetsCased rest then 'ς' else 'σ']
      else lowerMap.image c) ++ lowerAfter (c :: before) rest

def lower (t : Text) : Text := lowerAfter [] t

end MarkdownStyle.Text
