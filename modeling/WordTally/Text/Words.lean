import WordTally.Unicode.Lowercase
import WordTally.Unicode.WordClass

set_option autoImplicit false

namespace WordTally.Text

open Unicode

/-- The maximal runs of word characters. Two separators in a row enclose an empty run, which is
dropped. -/
def wordRuns (text : List Char) : List (List Char) :=
  (text.splitOnP fun c => !isWordChar c).filter fun run => !run.isEmpty

/-- The whole text is lower-cased before it is cut, because a final sigma depends on what
surrounds it. -/
def wordsOf (text : List Char) : List (List Char) := wordRuns (lowercase text)

def words (text : String) : List String := (wordsOf text.toList).map String.ofList

@[simp]
theorem wordRuns_nil : wordRuns [] = [] := rfl

end WordTally.Text
