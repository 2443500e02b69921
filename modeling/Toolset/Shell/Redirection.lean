import Toolset.Shell.State

/-!
# Redirected streams

A stream is led to a file, to a device, or to where another stream leads.
-/

namespace Toolset.Shell

def device? (path : String) : Option Target :=
  match path with
  | "/dev/null" => some .nowhere
  | "/dev/stdout" => some .output
  | "/dev/stderr" => some .errors
  | _ => none

def Streams.lead (streams : Streams) (stream : Nat) (target : Target) : Streams :=
  if stream = 1 then { streams with output := target }
  else if stream = 2 then { streams with errors := target }
  else streams

def openFile (state : State) (streams : Streams) (below stream : Nat) (text : String)
    (keeps : Bool) : State × Option Streams :=
  match device? text with
  | some target => (state, some (streams.lead stream target))
  | none =>
      let path := state.resolve text
      let kept := keeps && match state.contentOf path with
        | .ok _ => true
        | .error _ => false
      if kept then (state, some (streams.lead stream (.file path)))
      else
        match state.change (.write path "" none) with
        | (state, none) => (state, some (streams.lead stream (.file path)))
        | (state, some error) =>
            let reason := match error with
              | .coded 2 _ _ => "Directory nonexistent"
              | .coded _ reason _ => reason
              | .plain text => text
            (state.report streams below ("cannot create " ++ text ++ ": " ++ reason) 2, none)

/-- Redirections lead both streams for output away. -/
def leadAway (redirections : List Redirection) : Bool :=
  let leads := fun (stream : Nat) => redirections.any fun r => match r with
    | .make s direction _ => s == stream && direction != .read
  leads 1 && leads 2

/-- A background command keeps the streams of the process open. -/
def keepsOpen : Command → Bool
  | .simple _ _ redirections _ => !leadAway redirections
  | .group _ redirections => !leadAway redirections
  | .subshell _ redirections => !leadAway redirections
  | _ => true

end Toolset.Shell
