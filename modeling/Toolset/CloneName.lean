/-!
# The name of a clone

A clone is named after its source: what follows the last slash and the last
colon, without slashes at the end and without one `.git`.
-/

namespace Toolset.CloneName

def dropSlashes (cs : List Char) : List Char :=
  (cs.reverse.dropWhile (· == '/')).reverse

/-- What follows the last occurrence of a separator, or everything. -/
def afterLast (separator : Char) (cs : List Char) : List Char :=
  (cs.reverse.takeWhile (· != separator)).reverse

/-- The ending of a bare repository. -/
def gitEnding : List Char := ['.', 'g', 'i', 't']

def dropGit (cs : List Char) : List Char :=
  if gitEnding.isSuffixOf cs then cs.take (cs.length - gitEnding.length) else cs

/-- The name of the clone of a source. -/
def ofChars (source : List Char) : List Char :=
  dropGit (afterLast ':' (afterLast '/' (dropSlashes source)))

/-- The name of the clone of a source. -/
def ofSource (source : String) : String := String.ofList (ofChars source.toList)

example : ofSource "https://example.test/fuzz-scripts.git" = "fuzz-scripts" := by decide +kernel

end Toolset.CloneName
