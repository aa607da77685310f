import Waymark.Text.Basic

/-! Splitting a command line into words, with quotes and comments. -/

namespace Waymark.Words

/-- Where in a command line the reading is. -/
inductive State
  | outside
  | comment
  | inside (word : Text)
  /-- Between single quotes, where every character stands for itself. -/
  | single (word : Text)
  /-- Between double quotes. -/
  | double (word : Text)
deriving DecidableEq, Repr

/-- The characters between words. -/
def isSeparator (c : Char) : Bool := c == ' ' || c == '\t' || c == '\n'

/-- What a backslash and a character stand for outside quotes: a line end is left out. -/
def escaped (c : Char) : Text := if c = '\n' then [] else [c]

/-- What a backslash and a character stand for between double quotes, where the backslash only
counts before some of them. -/
def escapedInDouble (c : Char) : Text :=
  if c = '\n' then []
  else if c = '$' ∨ c = '\x60' ∨ c = '\x22' ∨ c = '\\' then [c]
  else ['\\', c]

/-- A word after one more character that is no backslash. -/
def enter (word : Text) (c : Char) : State :=
  if c = '\x27' then .single word
  else if c = '\x22' then .double word
  else .inside (word ++ [c])

/-- Reads on; there is no result if a quote is left open or a backslash ends the line. -/
def splitFrom : State → Text → Option (List Text)
  | .outside, [] => some []
  | .comment, [] => some []
  | .inside word, [] => some [word]
  | .single _, [] => none
  | .double _, [] => none
  | .comment, c :: cs => splitFrom (if c = '\n' then .outside else .comment) cs
  | .single word, c :: cs =>
    splitFrom (if c = '\x27' then .inside word else .single (word ++ [c])) cs
  | .double word, '\\' :: c :: cs => splitFrom (.double (word ++ escapedInDouble c)) cs
  | .double word, c :: cs =>
    if c = '\\' then none
    else splitFrom (if c = '\x22' then .inside word else .double (word ++ [c])) cs
  | .inside word, '\\' :: c :: cs => splitFrom (.inside (word ++ escaped c)) cs
  | .inside word, c :: cs =>
    if c = '\\' then none
    else if isSeparator c then (splitFrom .outside cs).map (word :: ·)
    else splitFrom (enter word c) cs
  | .outside, '\\' :: c :: cs => splitFrom (.inside (escaped c)) cs
  | .outside, c :: cs =>
    if c = '\\' then none
    else if isSeparator c then splitFrom .outside cs
    else if c = '#' then splitFrom .comment cs
    else splitFrom (enter [] c) cs

/-- The words of a command line. A comment starts where a word could and ends with the line. -/
def split? (t : Text) : Option (List Text) := splitFrom .outside t

end Waymark.Words
