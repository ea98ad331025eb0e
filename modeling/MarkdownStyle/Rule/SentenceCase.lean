/-
The rule on sentence case: in a heading only the first word and proper names have a capital. Names
are known from a list of words, which the options extend; whole words of capitals can be taken for
acronyms. What the rule reports is a guess, so there is no edit.
-/
import MarkdownStyle.Rule.Basic
import MarkdownStyle.Structure.Heading
import MarkdownStyle.Text.Letter
import MarkdownStyle.Text.Scan

namespace MarkdownStyle

/-! ## Inline markup -/

/-- A code span at the start of a text, which stands for nothing. -/
def codeMark? (t : Text) : Option (Text.Found Text) :=
  match t with
  | c :: rest =>
    if c == backtick then
      match Text.span (· != backtick) rest with
      | ([], _) | (_, []) => none
      | (inner, _ :: _) => some ⟨inner.length + 2, []⟩
    else none
  | [] => none

/-- A text in brackets at the start of a text, with what follows. -/
def linkText? (t : Text) : Option (Text × Text) :=
  match t with
  | '[' :: rest =>
    match Text.span (· != ']') rest with
    | ([], _) | (_, []) => none
    | (inner, _ :: after) => some (inner, after)
  | _ => none

/-- An inline link, which stands for its text. -/
def inlineLink? (t : Text) : Option (Text.Found Text) :=
  match linkText? t with
  | some (inner, '(' :: rest) =>
    match Text.span (· != ')') rest with
    | ([], _) | (_, []) => none
    | (target, _ :: _) => some ⟨inner.length + target.length + 4, inner⟩
  | _ => none

/-- A link with a reference label, which stands for its text. -/
def referenceLink? (t : Text) : Option (Text.Found Text) :=
  match linkText? t with
  | some (inner, '[' :: rest) =>
    match Text.span (· != ']') rest with
    | (_, []) => none
    | (label, _ :: _) => some ⟨inner.length + label.length + 4, inner⟩
  | _ => none

/-- Heading text reduced to its words: code spans, then inline links, then reference links, then
the marks of emphasis are resolved. -/
def withoutMarkup (t : Text) : Text :=
  (Text.replaceAll referenceLink? (Text.replaceAll inlineLink? (Text.replaceAll codeMark? t))).filter
    fun c => c != '*' && c != '_'

/-! ## Capitalized words -/

/-- The letters of a word with one run of letters and other characters around it. -/
def wordLetters? (word : Text) : Option Text :=
  let (letters, after) := Text.span Text.isLetter (word.dropWhile fun c => !Text.isLetter c)
  if letters.isEmpty || after.any Text.isLetter then none else some letters

/-- The letters of a word that should not have its capital. -/
def needlessCapital? (allowed : List Text) (ignoreAcronyms : Bool) (word : Text) : Option Text :=
  (wordLetters? word).filter fun letters =>
    letters.head?.any Text.isUpperChar && !allowed.contains (Text.lower letters) &&
      !(ignoreAcronyms && Text.isUpper letters)

/-- The capitalized words after the first one that are not allowed, given in lower case. -/
def needlessCapitals (heading : Text) (allowed : List Text) (ignoreAcronyms : Bool) : List Text :=
  ((Text.words (withoutMarkup heading)).drop 1).filterMap (needlessCapital? allowed ignoreAcronyms)

namespace SentenceCase

/-- Proper names that keep their capitals. -/
def knownWords : List String :=
  ["JavaScript", "TypeScript", "Python", "Java", "Ruby", "PHP", "Go", "Rust", "Swift", "Kotlin",
    "Scala", "Perl", "Haskell", "Elixir", "Erlang", "Clojure", "Lua", "GitHub", "GitLab",
    "Bitbucket", "npm", "Yarn", "Deno", "Node", "Bun", "Docker", "Kubernetes", "Linux", "macOS",
    "Windows", "iOS", "Android", "Unix", "React", "Vue", "Angular", "Svelte", "Next", "Nuxt",
    "Express", "Django", "Flask", "Rails", "Laravel", "Spring", "PostgreSQL", "MySQL", "MongoDB",
    "Redis", "SQLite", "Elasticsearch", "HTTP", "HTTPS", "HTML", "CSS", "JSON", "XML", "YAML",
    "TOML", "REST", "GraphQL", "OAuth", "JWT", "ActivityPub", "WebFinger", "Google", "Microsoft",
    "Apple", "Amazon", "AWS", "Azure", "OpenAI", "Actions", "Mastodon", "Misskey"]

/-- The allowed words in lower case: the known ones and those of the options. -/
def allowedWords (extra : List String) : List Text :=
  (knownWords ++ extra).map fun word => Text.lower word.toList

def finding? (allowed : List Text) (ignoreAcronyms : Bool) (h : Heading) : Option Finding :=
  match needlessCapitals h.text allowed ignoreAcronyms with
  | [] => none
  | found =>
    let detail := "Capitalized word(s) may violate sentence case: " ++
      String.intercalate ", " (found.map String.ofList)
    some ⟨h.line, detail, h.text, none⟩

end SentenceCase

def sentenceCaseRule : Rule where
  id := "HM005"
  name := "heading-sentence-case"
  description := "Headings should use sentence case"
  tags := ["headings", "case"]
  severity := .warning
  fixable := false
  defaults := [(.str "allowed_words", .list []), (.str "ignore_acronyms", .bool true)]
  minimums := []
  check d o :=
    let allowed := SentenceCase.allowedWords (o.strings "allowed_words" [])
    let ignoreAcronyms := o.flag "ignore_acronyms" true
    .ok ((headings d.classified).filterMap (SentenceCase.finding? allowed ignoreAcronyms))

end MarkdownStyle
