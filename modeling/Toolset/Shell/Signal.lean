import Toolset.Shell.State

/-!
# Signals

A signal has a number and a name.  A script may send one to itself or to its
background command; any other process is unknown to it.
-/

namespace Toolset.Shell

def signal? (name : String) : Option Nat :=
  match name with
  | "EXIT" => some 0
  | "HUP" => some 1
  | "INT" => some 2
  | "QUIT" => some 3
  | "ABRT" => some 6
  | "KILL" => some 9
  | "TERM" => some 15
  | "USR1" => some 10
  | "USR2" => some 12
  | name => name.toNat?

/-- The signal and the processes that words name. -/
def killed (words : List String) : Option (Nat × List String) :=
  match words with
  | "-s" :: name :: rest => (signal? name).map (·, rest)
  | word :: rest =>
      match word.toList with
      | '-' :: name => (signal? (String.ofList name)).map (·, rest)
      | _ => some (15, words)
  | [] => none

/-- Signal processes. -/
def kill (state : State) (streams : Streams) (below : Nat) (words : List String) : State × Flow :=
  match killed words with
  | none => (state.done 2, .next)
  | some (signal, processes) =>
      if processes.contains (toString state.pid) || processes.contains "0" then
        if signal = 0 then (state.done 0, .next) else (state, .killed signal)
      else if processes.contains (toString (state.pid + 1)) then
        ({ state with background := (state.elapsed, 128 + signal), held := 0, status := 0 }, .next)
      else (state.report streams below "kill: No such process\n" 1, .next)

/-- What is said of a program that a signal ended. -/
def signalText (signal : Nat) : String :=
  match signal with
  | 1 => "Hangup\n"
  | 2 => "\n"
  | 3 => "Quit\n"
  | 6 => "Aborted\n"
  | 9 => "Killed\n"
  | 15 => "Terminated\n"
  | _ => ""

end Toolset.Shell
