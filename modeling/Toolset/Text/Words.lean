/-!
# Command words

A command given as one text is cut into words by the rules of the POSIX shell:
blanks separate words, a backslash takes the next character as it is, and
quotes group.  Inside quotation marks a backslash counts only before a
quotation mark or a backslash; inside apostrophes it never counts.
-/

namespace Toolset.Text.Words

/-- Why a text cannot be cut into words. -/
inductive Fault where
  | unclosedQuote
  | danglingBackslash
  deriving DecidableEq, Repr

/-- What is said of the fault. -/
def Fault.message : Fault → String
  | .unclosedQuote => "No closing quotation"
  | .danglingBackslash => "No escaped character"

/-- A character that separates words. -/
def isSeparator (c : Char) : Bool := c == ' ' || c == '\t' || c == '\r' || c == '\n'

/-- Where a reader stands: outside any quote, or inside one. -/
inductive Place where
  | outside
  | apostrophes
  | quotationMarks
  deriving DecidableEq, Repr

def close : Option (List Char) → List (List Char)
  | none => []
  | some word => [word.reverse]

/-- Cut the rest of a text into words. `begun` holds the word begun, last
character first; it is `none` between words. -/
def splitFrom : Place → Option (List Char) → List Char → Except Fault (List (List Char))
  | .outside, begun, [] => .ok (close begun)
  | _, _, [] => .error .unclosedQuote
  | .outside, begun, c :: rest =>
      if isSeparator c then (splitFrom .outside none rest).map (close begun ++ ·)
      else if c = '\'' then splitFrom .apostrophes (some (begun.getD [])) rest
      else if c = '"' then splitFrom .quotationMarks (some (begun.getD [])) rest
      else if c = '\\' then
        match rest with
        | [] => .error .danglingBackslash
        | next :: rest => splitFrom .outside (some (next :: begun.getD [])) rest
      else splitFrom .outside (some (c :: begun.getD [])) rest
  | .apostrophes, begun, c :: rest =>
      if c = '\'' then splitFrom .outside begun rest
      else splitFrom .apostrophes (some (c :: begun.getD [])) rest
  | .quotationMarks, begun, c :: rest =>
      if c = '"' then splitFrom .outside begun rest
      else if c = '\\' then
        match rest with
        | [] => .error .danglingBackslash
        | next :: rest =>
            if next = '"' ∨ next = '\\' then
              splitFrom .quotationMarks (some (next :: begun.getD [])) rest
            else
              splitFrom .quotationMarks (some (next :: '\\' :: begun.getD [])) rest
      else splitFrom .quotationMarks (some (c :: begun.getD [])) rest

/-- Cut a text into words. -/
def split (s : String) : Except Fault (List String) :=
  (splitFrom .outside none s.toList).map (·.map String.ofList)

/-- One character of a word inside apostrophes; an apostrophe itself leaves
them, stands inside quotation marks, and enters them again. -/
def quoteChar (c : Char) : List Char :=
  if c = '\'' then ['\'', '"', '\'', '"', '\''] else [c]

/-- A word inside apostrophes. -/
def quoteWord (word : List Char) : List Char :=
  '\'' :: (word.flatMap quoteChar ++ ['\''])

/-- A list of words as one text that is cut into just these words. -/
def join (words : List String) : String :=
  String.ofList (" ".toList.intercalate (words.map fun word => quoteWord word.toList))

end Toolset.Text.Words
