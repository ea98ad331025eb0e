/-
Sessions: requests that come to one linter, one after the other. A key that stands for no rule is
refused and leaves the linter as it is; linting and fixing a text never change the linter.
-/
import MarkdownStyle.Linter

namespace MarkdownStyle

inductive Request where
  /-- Enables or disables the rule of a key. -/
  | switch (key : String) (enabled : Bool)
  | lint (text : Text) (path : String)
  | fix (text : Text) (path : String)

inductive Answer where
  | switched
  | refused (fault : ConfigFault)
  | linted (report : Report)
  | fixed (text : Text) (report : Report)

namespace Linter

/-- The linter after a request, and the answer to the request. -/
def serve (l : Linter) : Request → Linter × Answer
  | .switch key enabled =>
    match if enabled then l.enable key else l.disable key with
    | .ok l => (l, .switched)
    | .error fault => (l, .refused fault)
  | .lint text path => (l, .linted (l.lint text path))
  | .fix text path =>
    let (fixed, report) := l.fix text path
    (l, .fixed fixed report)

/-- The linter at the end of a session. -/
def after (l : Linter) (requests : List Request) : Linter :=
  requests.foldl (fun l request => (l.serve request).1) l

end Linter

end MarkdownStyle
