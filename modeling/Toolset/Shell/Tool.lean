import Toolset.Decimal.Numeral
import Toolset.Shell.Condition
import Toolset.Shell.Filter
import Toolset.Shell.Signal

/-!
# Tools

Every script can rely on these tools.  Each takes its words and the state, and
leaves a status.
-/

namespace Toolset.Shell

/-- Let the seconds pass that words name. -/
def sleep (state : State) (streams : Streams) (words : List String) : State × Flow :=
  let refuse := fun (message : String) =>
    (complain state streams "sleep" (message ++ "\nTry 'sleep --help' for more information."),
      Flow.next)
  match words, words.find? fun word => (Decimal.givenNumber? word).isNone with
  | [], _ => refuse "missing operand"
  | _, some word => refuse ("invalid time interval '" ++ word ++ "'")
  | words, none =>
      (state.done 0).wait
        (words.foldl (fun total word => total + (Decimal.givenNumber? word).getD 0) 0)

/-- So many lines are offered to a reader who stops reading. -/
def yesLines : Nat := 20000

def runTool (name : String) (words : List String) (streams : Streams) (below : Nat)
    (state : State) : State × Flow :=
  let tested := fun (result : Except String Bool) =>
    match result with
    | .ok b => (state.done (if b then 0 else 1), Flow.next)
    | .error text => (state.report streams below (name ++ ": " ++ text) 2, .next)
  match name with
  | "true" => (state.done 0, .next)
  | "false" => (state.done 1, .next)
  | "echo" => ((state.write streams.output (echo words)).done 0, .next)
  | "printf" =>
      match words with
      | [] => (state.report streams below "printf: usage: printf format [arg ...]" 2, .next)
      | format :: arguments =>
          ((state.write streams.output (printf (words.length + 1) format arguments)).done 0, .next)
  | "test" => tested (test state (words.length + 1) words)
  | "[" =>
      if words.getLast? == some "]" then tested (test state (words.length + 1) words.dropLast)
      else tested (.error "missing ]")
  | "cat" => (cat state streams words, .next)
  | "mkdir" => (mkdir state streams words, .next)
  | "rm" => (rm state streams words, .next)
  | "rmdir" => (rm state streams ("-r" :: words), .next)
  | "touch" => (touch state streams words, .next)
  | "ln" => (ln state streams words, .next)
  | "cp" => (copy state streams false words, .next)
  | "mv" => (copy state streams true words, .next)
  | "chmod" => (chmod state streams words, .next)
  | "ls" => (ls state streams words, .next)
  | "head" => (head state streams false words, .next)
  | "tail" => (head state streams true words, .next)
  | "seq" => (seq state streams words, .next)
  | "tr" => (tr state streams words, .next)
  | "wc" => (wc state streams words, .next)
  | "yes" =>
      if streams.output = .caught then
        ((state.print streams.output
          (String.join (List.replicate yesLines (words.headD "y" ++ "\n")))).done 141, .next)
      else (state, .stalled)
  | "basename" =>
      ((state.print streams.output
        (basename (words.headD "") ((words.drop 1).headD "") ++ "\n")).done 0, .next)
  | "dirname" => ((state.print streams.output (dirname (words.headD "") ++ "\n")).done 0, .next)
  | "pwd" => ((state.print streams.output (state.directory.toString ++ "\n")).done 0, .next)
  | "kill" => kill state streams below words
  | "sleep" => sleep state streams words
  | _ => (state.done 127, .next)

end Toolset.Shell
