set_option autoImplicit false

namespace WordTally.Text

/-- The pieces between separators; there is always at least one. -/
def pieces (separator : Char) (text : List Char) : List (List Char) :=
  text.splitOnP (· == separator)

/-- The parts around the first character of a kind; that character stays with the second part. -/
def cutAt (ends : Char → Bool) (text : List Char) : List Char × List Char :=
  (text.takeWhile fun c => !ends c, text.dropWhile fun c => !ends c)

theorem cutAt_append (ends : Char → Bool) (text : List Char) :
    (cutAt ends text).1 ++ (cutAt ends text).2 = text := by
  simp [cutAt]

/-- The parts around the last occurrence of a character, which belongs to neither. -/
def cutAtLast? (separator : Char) (text : List Char) : Option (List Char × List Char) :=
  match cutAt (· == separator) text.reverse with
  | (after, _ :: before) => some (before.reverse, after.reverse)
  | (_, []) => none

/-- What follows the first occurrence of a mark. -/
def afterMark? (mark : List Char) : List Char → Option (List Char)
  | [] => if mark.isEmpty then some [] else none
  | c :: rest =>
    if mark.isPrefixOf (c :: rest) then some ((c :: rest).drop mark.length)
    else afterMark? mark rest

end WordTally.Text
