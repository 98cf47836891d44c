import TestScout.Syntax.Scan
import TestScout.Text.Quoted

/-!
A source file: a path, a text, the dialect that the path stands for, and the syntax tree of the
text in that dialect.
-/

namespace TestScout.Syntax

structure Source where
  path : Path
  language : Language
  text : String
  tree : Node

namespace Source

def ofText (path : Path) (text : String) : Source :=
  let language := Language.ofPath path
  ⟨path, language, text, parse language text⟩

/-- A description of a source for those who look for faults. -/
def debug (s : Source) : String :=
  "SourceFile \x7b path: " ++ Text.quoted s.path.display ++ ", language: " ++ s.language.tag ++
    ", len: " ++ toString s.text.utf8ByteSize ++ " \x7d"

end Source

end TestScout.Syntax
