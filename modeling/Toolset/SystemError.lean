import Toolset.Text.Quoted

/-!
# Errors of the system

A request to the system is refused with a code, a reason, and the names it was
about.  An error can also be nothing but a text.
-/

namespace Toolset

/-- An error of the system. -/
inductive SystemError where
  /-- An error that is nothing but a text. -/
  | plain (text : String)
  /-- A code, a reason, and the names that the request was about, as they are
  spelled. -/
  | coded (code : Int) (reason : String) (about : List String)
  deriving DecidableEq, Repr

namespace SystemError

/-- The code of a wait that took too long. -/
def timeoutCode : Int := 110

/-- What is said of the error. -/
def text : SystemError → String
  | .plain text => text
  | .coded code reason [] => "[Errno " ++ toString code ++ "] " ++ reason
  | .coded code reason about =>
      "[Errno " ++ toString code ++ "] " ++ reason ++ ": " ++ " -> ".intercalate about

/-- The error tells that time ran out. -/
def isTimeout : SystemError → Bool
  | .coded code _ _ => code == timeoutCode
  | .plain _ => false

end SystemError

/-- What stands in the way of a request for a path. -/
inductive Obstacle where
  | missing
  | denied
  | exists
  | notDirectory
  | isDirectory
  | nameTooLong
  | tooManyLinks
  deriving DecidableEq, Repr

namespace Obstacle

def code : Obstacle → Int
  | .missing => 2
  | .denied => 13
  | .exists => 17
  | .notDirectory => 20
  | .isDirectory => 21
  | .nameTooLong => 36
  | .tooManyLinks => 40

def reason : Obstacle → String
  | .missing => "No such file or directory"
  | .denied => "Permission denied"
  | .exists => "File exists"
  | .notDirectory => "Not a directory"
  | .isDirectory => "Is a directory"
  | .nameTooLong => "File name too long"
  | .tooManyLinks => "Too many levels of symbolic links"

def error (obstacle : Obstacle) (name : String) : SystemError :=
  .coded obstacle.code obstacle.reason [Text.quoted name]

end Obstacle

end Toolset
