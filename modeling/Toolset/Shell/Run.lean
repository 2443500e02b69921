import Toolset.Shell.Builtin
import Toolset.Shell.Reader
import Toolset.Shell.Redirection
import Toolset.Shell.Tool

/-!
# Running scripts

A script runs on its state: words are expanded and cut into fields, streams are
redirected, and commands are run one after another.  Every step uses up fuel, so
that every run ends.
-/

namespace Toolset.Shell

mutual

def expand : (fuel : Nat) → Streams → State → List Part → List Piece × State
  | 0, _, state, _ => ([], state)
  | _, _, state, [] => ([], state)
  | fuel + 1, streams, state, part :: rest =>
      let (first, state) := expandPart fuel streams state part
      let (others, state) := expand fuel streams state rest
      (first ++ others, state)
termination_by structural fuel => fuel

def expandPart : (fuel : Nat) → Streams → State → Part → List Piece × State
  | 0, _, state, _ => ([], state)
  | fuel + 1, streams, state, part =>
      let stop := fun (message : String) =>
        (([] : List Piece),
          { state.report streams (state.lines - 1) message 2 with stopped := true })
      match part with
      | .char c quoted => ([.char c quoted false], state)
      | .nothing => ([.nothing], state)
      | .arithmetic text quoted =>
          let value := fun name => ((state.valueOf? name).bind String.toInt?).getD 0
          match Arithmetic.evaluate value text with
          | some n => (valuePieces quoted (toString n), state)
          | none =>
              stop ("arithmetic expression: division by zero: \"" ++ String.ofList text ++ "\"")
      | .output body quoted =>
          let (after, _) := runApart fuel { streams with output := .caught }
            { state with caught := [] } body
          let text := dropFeeds (Text.decodeText after.caught)
          (valuePieces quoted text, { after with caught := state.caught })
      | .parameter name change quoted =>
          let value := state.parameter? name
          let lacks := fun (emptyToo : Bool) =>
            value.isNone || (emptyToo && value == some "")
          match change with
          | .none =>
              if name == "@" then (argumentPieces quoted state.arguments, state)
              else if value.isNone && state.options.contains 'u' then
                stop (name ++ ": parameter not set")
              else (valuePieces quoted (value.getD ""), state)
          | .length => (valuePieces quoted (toString (value.getD "").length), state)
          | .trimFront longest word =>
              let (pieces, state) := expand fuel streams state word
              let text := trimFront longest (pattern (uncut pieces)) (value.getD "").toList
              (valuePieces quoted (String.ofList text), state)
          | .trimBack longest word =>
              let (pieces, state) := expand fuel streams state word
              let text := trimBack longest (pattern (uncut pieces)) (value.getD "").toList
              (valuePieces quoted (String.ofList text), state)
          | .default emptyToo word =>
              if lacks emptyToo then expand fuel streams state word
              else (valuePieces quoted (value.getD ""), state)
          | .alternative emptyToo word =>
              if lacks emptyToo then ([], state) else expand fuel streams state word
          | .assign emptyToo word =>
              if lacks emptyToo then
                let (text, state) := expandText fuel streams state word
                (valuePieces quoted text, state.assign name text)
              else (valuePieces quoted (value.getD ""), state)
          | .require emptyToo word =>
              if lacks emptyToo then
                let (text, _) := expandText fuel streams state word
                stop (name ++ ": " ++
                  if !text.isEmpty then text
                  else if emptyToo then "parameter not set or null" else "parameter not set")
              else (valuePieces quoted (value.getD ""), state)
termination_by structural fuel => fuel

def expandWords : (fuel : Nat) → Streams → State → List (List Part) → List String × State
  | 0, _, state, _ => ([], state)
  | _, _, state, [] => ([], state)
  | fuel + 1, streams, state, word :: rest =>
      let (pieces, state) := expand fuel streams state word
      let first := (fieldsFrom none pieces).flatMap (names state)
      let (others, state) := expandWords fuel streams state rest
      (first ++ others, state)
termination_by structural fuel => fuel

def expandText : (fuel : Nat) → Streams → State → List Part → String × State
  | 0, _, state, _ => ("", state)
  | fuel + 1, streams, state, word =>
      let (pieces, state) := expand fuel streams state word
      (plain (uncut pieces), state)
termination_by structural fuel => fuel

/-- Redirect streams; `none` tells that one could not be. -/
def redirect : (fuel : Nat) → Streams → (below : Nat) → State → List Redirection →
    State × Option Streams
  | 0, streams, _, state, _ => (state, some streams)
  | _, streams, _, state, [] => (state, some streams)
  | fuel + 1, streams, below, state, .make stream direction word :: rest =>
      let (text, state) := expandText fuel streams state word
      let opened : State × Option Streams :=
        match direction with
        | .write => openFile state streams below stream text false
        | .append => openFile state streams below stream text true
        | .duplicate =>
            (state, some (match text with
              | "1" => streams.lead stream streams.output
              | "2" => streams.lead stream streams.errors
              | _ => streams.lead stream .nowhere))
        | .document => ({ state with input := Text.encodeText text }, some streams)
        | .read =>
            if text == "/dev/null" then ({ state with input := [] }, some streams)
            else
              match state.contentOf (state.resolve text) with
              | .ok content => ({ state with input := Text.encodeText content }, some streams)
              | .error _ =>
                  (state.report streams below ("cannot open " ++ text ++ ": No such file") 2, none)
      match opened with
      | (state, some streams) => redirect fuel streams below state rest
      | (state, none) => (state, none)
termination_by structural fuel => fuel

/-- Give variables their values. -/
def assignAll : (fuel : Nat) → Streams → State → List (String × List Part) → State
  | 0, _, state, _ => state
  | _, _, state, [] => state
  | fuel + 1, streams, state, (name, word) :: rest =>
      let (value, state) := expandText fuel streams state word
      assignAll fuel streams (state.assign name value) rest
termination_by structural fuel => fuel

/-- Run what is to be run on a signal, or at the end. -/
def runTrap : (fuel : Nat) → Streams → State → (signal : Nat) → State × Flow
  | 0, _, state, _ => (state, .stalled)
  | fuel + 1, streams, state, signal =>
      match state.traps.lookup signal with
      | none => (state, if signal = 0 then .next else .killed signal)
      | some action =>
          let status := state.status
          match Reader.read? action with
          | none => (state, .next)
          | some commands =>
              match executeAll fuel streams state commands with
              | (state, .next) => (state.done status, .next)
              | result => result
termination_by structural fuel => fuel

/-- Run commands on their own, with what is to be run at the end. -/
def runApart : (fuel : Nat) → Streams → State → List Command → State × Flow
  | 0, _, state, _ => (state, .stalled)
  | fuel + 1, streams, state, commands =>
      let (after, flow) := runToEnd fuel streams state.apart commands
      (state.rejoin after, flow.rejoin)
termination_by structural fuel => fuel

/-- Run commands, and what is to be run at the end. -/
def runToEnd : (fuel : Nat) → Streams → State → List Command → State × Flow
  | 0, _, state, _ => (state, .stalled)
  | fuel + 1, streams, state, commands =>
      match executeAll fuel streams state commands with
      | (after, .killed signal) => (after, .killed signal)
      | (after, .stalled) => (after, .stalled)
      | (after, _) => runTrap fuel streams { after with stopped := false } 0
termination_by structural fuel => fuel

def runScript : (fuel : Nat) → Streams → State → (name : String) → (arguments : List String) →
    (text : String) → State × Flow
  | 0, _, state, _, _, _ => (state, .stalled)
  | fuel + 1, streams, state, name, arguments, text =>
      match Reader.read? text with
      | none =>
          ((state.print streams.errors (name ++ ": 1: " ++ Reader.complaint text ++ "\n")).done 2,
            .next)
      | some commands =>
          let inner := { state with
            name, arguments, lines := Reader.linesBelow text.toList + 1, status := 0 }
          let (after, flow) := runToEnd fuel streams inner commands
          (after, flow.rejoin)
termination_by structural fuel => fuel

def runShell : (fuel : Nat) → Streams → State → List String → State × Flow
  | 0, _, state, _ => (state, .stalled)
  | fuel + 1, streams, state, words =>
      match words with
      | [] => (state.done 0, .next)
      | word :: rest =>
          match word.toList with
          | '-' :: letters =>
              let state := { state with
                options := letters.filter (· != 'c') ++ state.options }
              if letters.contains 'c' then
                match rest with
                | [] =>
                    ((state.print streams.errors
                      ("sh: 0: -c requires an argument\n")).done 2, .next)
                | text :: rest =>
                    runScript fuel streams state (rest.headD "sh") (rest.drop 1) text
              else runShell fuel streams state rest
          | _ =>
              match state.contentOf (state.resolve word) with
              | .ok text => runScript fuel streams state word rest text
              | .error _ =>
                  ((state.print streams.errors
                    ("sh: 0: cannot open " ++ word ++ ": No such file\n")).done 2, .next)
termination_by structural fuel => fuel

def runProgram : (fuel : Nat) → Streams → (below : Nat) → State → String → List String →
    State × Flow
  | 0, _, _, state, _, _ => (state, .stalled)
  | fuel + 1, streams, below, state, name, words =>
      let refuse := fun (reason : String) (status : Nat) =>
        (state.report streams below (name ++ ": " ++ reason) status, Flow.next)
      match state.program name with
      | .tool "sh" => runShell fuel streams state words
      | .tool "dash" => runShell fuel streams state words
      | .tool "echo" =>
          ((state.print streams.output (" ".intercalate words ++ "\n")).done 0, .next)
      | .tool tool => runTool tool words streams below state
      | .script path text =>
          match interpreter text with
          | .missing => refuse "not found" 127
          | .unnamed => runScript fuel streams state path words text
          | .shell options => runShell fuel streams state (options ++ path :: words)
      | .denied => refuse "Permission denied" 126
      | .missing => refuse "not found" 127
termination_by structural fuel => fuel

/-- Run a program for the script, which goes on whatever comes of it. -/
def runChild : (fuel : Nat) → Streams → (below : Nat) → State → String → List String →
    State × Flow
  | 0, _, _, state, _, _ => (state, .stalled)
  | fuel + 1, streams, below, state, name, words =>
      let inner := { state.asProgram with name := state.name, lines := state.lines }
      match runProgram fuel streams below inner name words with
      | (after, .killed signal) =>
          let after := (state.rejoin after).print streams.errors (signalText signal)
          (after.done (128 + signal), .next)
      | (after, flow) => (state.rejoin after, flow.rejoin)
termination_by structural fuel => fuel

def runNamed : (fuel : Nat) → Streams → (below : Nat) → State → String → List String →
    State × Flow
  | 0, _, _, state, _, _ => (state, .stalled)
  | fuel + 1, streams, below, state, name, words =>
      let ends := fun (flow : Flow) =>
        match statusOf state words with
        | .ok status => (state.done status, flow)
        | .error message => (state.report streams below (name ++ ": " ++ message) 2, .leaves)
      match state.functions.lookup name with
      | some body =>
          let (after, flow) := execute fuel streams { state with arguments := words } body
          ({ after with arguments := state.arguments }, flow.afterFunction)
      | none =>
          match name with
          | ":" => (state.done 0, .next)
          | "trap" => (setTraps state words, .next)
          | "cd" => (changeDirectory state streams below words, .next)
          | "exit" => ends .leaves
          | "return" => ends .returns
          | "break" =>
              (state.done 0, if state.loops = 0 then .next else .breaks (countOf words))
          | "continue" =>
              (state.done 0, if state.loops = 0 then .next else .continues (countOf words))
          | "export" => (assignWords state true words, .next)
          | "readonly" => (assignWords state false words, .next)
          | "local" => (assignWords state false words, .next)
          | "umask" =>
              if words.isEmpty then ((state.print streams.output "0022\n").done 0, .next)
              else (state.done 0, .next)
          | "ulimit" => (state.done 0, .next)
          | "read" => (readLine state words, .next)
          | "unset" =>
              (({ state with
                values := state.values.filter fun v => !words.contains v.1 }).done 0, .next)
          | "set" =>
              match words with
              | "--" :: arguments => (({ state with arguments }).done 0, .next)
              | words => ((words.foldl setOptions state).done 0, .next)
          | "shift" =>
              if state.arguments.length < countOf words then
                (state.report streams below "shift: can't shift that many" 2, .leaves)
              else
                (({ state with arguments := state.arguments.drop (countOf words) }).done 0, .next)
          | "wait" =>
              let (state, flow) := state.waitUntil state.background.1
              (state.done (if words.isEmpty then 0 else state.background.2), flow)
          | "eval" =>
              match Reader.read? (" ".intercalate words) with
              | some commands => executeAll fuel streams (state.done 0) commands
              | none => (state.done 2, .leaves)
          | "." =>
              let path := words.headD ""
              match state.contentOf (state.resolve path) with
              | .ok text =>
                  match Reader.read? text with
                  | some commands =>
                      let (state, flow) := executeAll fuel streams (state.done 0) commands
                      (state, flow.afterFunction)
                  | none => (state.done 2, .leaves)
              | .error _ =>
                  (state.report streams below (".: cannot open " ++ path ++ ": No such file") 2,
                    .leaves)
          | "command" =>
              match words with
              | name :: words => runNamed fuel streams below state name words
              | [] => (state.done 0, .next)
          | "exec" =>
              match words with
              | [] => ({ state.done 0 with led := some streams }, .next)
              | name :: words =>
                  match state.program name with
                  | .denied =>
                      (state.report streams below ("exec: " ++ name ++ ": Permission denied") 126,
                        .leaves)
                  | .missing =>
                      (state.report streams below ("exec: " ++ name ++ ": not found") 127, .leaves)
                  | _ =>
                      match runProgram fuel streams below { state.apart with functions := [] }
                          name words with
                      | (state, .next) => ({ state with traps := [] }, .leaves)
                      | result => result
          | name =>
              if ownTools.contains name then
                match runTool name words streams below state with
                | (state, .killed signal) =>
                    if state.traps.any (·.1 == signal) then
                      let (state, flow) := runTrap fuel streams state signal
                      (if flow = .next then state.done 0 else state, flow)
                    else (state, .killed signal)
                | result => result
              else runChild fuel streams below state name words
termination_by structural fuel => fuel

/-- Run commands one after another. -/
def executeAll : (fuel : Nat) → Streams → State → List Command → State × Flow
  | 0, _, state, _ => (state, .stalled)
  | _, _, state, [] => (state, .next)
  | fuel + 1, streams, state, command :: rest =>
      match execute fuel streams { state with led := none } command with
      | (after, .next) =>
          let (last, flow) := executeAll fuel (after.led.getD streams) after rest
          (if last.led.isNone then { last with led := after.led } else last, flow)
      | result => result
termination_by structural fuel => fuel

/-- Run commands at whose status somebody looks. -/
def executeTest : (fuel : Nat) → Streams → State → List Command → State × Flow
  | 0, _, state, _ => (state, .stalled)
  | fuel + 1, streams, state, commands =>
      let (after, flow) := executeAll fuel streams { state with tested := true } commands
      ({ after with tested := state.tested }, flow)
termination_by structural fuel => fuel

/-- Run commands that are fed one into the next. -/
def executePipes : (fuel : Nat) → Streams → State → List Command → State × Flow
  | 0, _, state, _ => (state, .stalled)
  | _, _, state, [] => (state, .next)
  | fuel + 1, streams, state, [command] => runApart fuel streams state [command]
  | fuel + 1, streams, state, command :: rest =>
      let (after, flow) := runApart fuel { streams with output := .caught }
        { state with caught := [] } [command]
      let state := { after with caught := state.caught }
      match flow with
      | .next => executePipes fuel streams { state with input := after.caught } rest
      | flow => (state, flow)
termination_by structural fuel => fuel

/-- Run the body of a loop for each of several words. -/
def executeEach : (fuel : Nat) → Streams → State → String → List Command → List String →
    State × Flow
  | 0, _, state, _, _, _ => (state, .stalled)
  | _, _, state, _, _, [] => (state, .next)
  | fuel + 1, streams, state, name, body, word :: rest =>
      let (state, flow) := executeAll fuel streams (state.assign name word) body
      match flow.afterBody with
      | none => executeEach fuel streams state name body rest
      | some flow => (state, flow)
termination_by structural fuel => fuel

/-- Run the first case that fits. -/
def executeCases : (fuel : Nat) → Streams → State → List Char →
    List (List (List Part) × List Command) → State × Flow
  | 0, _, state, _, _ => (state, .stalled)
  | _, _, state, _, [] => (state.done 0, .next)
  | fuel + 1, streams, state, subject, (patterns, body) :: rest =>
      match patterns with
      | [] => executeCases fuel streams state subject rest
      | first :: others =>
          let (pieces, state) := expand fuel streams state first
          if fits (pattern (uncut pieces)) subject then
            executeAll fuel streams (state.done 0) body
          else executeCases fuel streams state subject ((others, body) :: rest)
termination_by structural fuel => fuel

/-- Run a body with its streams redirected. -/
def executeWith : (fuel : Nat) → Streams → State → List Redirection → List Command →
    State × Flow
  | 0, _, state, _, _ => (state, .stalled)
  | fuel + 1, streams, state, redirections, body =>
      match redirect fuel streams (state.lines - 1) state redirections with
      | (state, none) => (state, .next)
      | (inner, some streams) =>
          let (after, flow) := executeAll fuel streams inner body
          let after := if redirections.isEmpty then after else { after with led := none }
          (if inner.input = state.input then after else { after with input := state.input }, flow)
termination_by structural fuel => fuel

/-- Run a simple command. -/
def executeSimple : (fuel : Nat) → Streams → State → List (String × List Part) →
    List (List Part) → List Redirection → (below : Nat) → State × Flow
  | 0, _, state, _, _, _, _ => (state, .stalled)
  | fuel + 1, streams, state, assignments, words, redirections, below =>
      let input := state.input
      let (fields, state) := expandWords fuel streams state words
      if state.stopped then (state, .leaves)
      else
        match redirect fuel streams below state redirections with
        | (state, none) =>
            (state, if endsWithoutStream.contains (fields.headD "") then .leaves else .next)
        | (state, some streams) =>
            let reads := state.input ≠ input
            let (state, flow) := match fields with
              | [] =>
                  let state := if words.isEmpty then state.done 0 else state
                  let after := assignAll fuel streams state assignments
                  (after, if after.stopped then Flow.leaves else Flow.next)
              | name :: arguments =>
                  let inner := assignAll fuel streams state assignments
                  let inner := assignments.foldl (fun (s : State) (given : String × List Part) =>
                    s.exportName given.1) inner
                  let inner := if state.options.contains 'x' then
                      inner.print streams.errors
                        ("+ " ++ " ".intercalate (name :: arguments) ++ "\n")
                    else inner
                  let (after, flow) := runNamed fuel streams below inner name arguments
                  (if assignments.isEmpty then after
                    else { after with values := state.values, exported := state.exported },
                    flow)
            (if reads then { state with input } else state, flow)
termination_by structural fuel => fuel

/-- Run a command. Under the option `e` a command that fails ends the script,
unless somebody looks at its status. -/
def execute : (fuel : Nat) → Streams → State → Command → State × Flow
  | 0, _, state, _ => (state, .stalled)
  | fuel + 1, streams, state, command =>
      let checked := fun (result : State × Flow) =>
        match result with
        | (after, .next) =>
            if after.status ≠ 0 && after.options.contains 'e' && !after.tested then (after, .leaves)
            else (after, Flow.next)
        | result => result
      match command with
      | .simple assignments words redirections below =>
          checked (executeSimple fuel streams state assignments words redirections below)
      | .group body redirections => executeWith fuel streams state redirections body
      | .subshell body redirections =>
          let (after, flow) := runApart fuel streams state [.group body redirections]
          checked (after, flow)
      | .branch test body otherwise =>
          match executeTest fuel streams state test with
          | (state, .next) =>
              if state.status = 0 then executeAll fuel streams state body
              else executeAll fuel streams (state.done 0) otherwise
          | result => result
      | .loop succeeds test body =>
          match executeTest fuel streams { state with loops := state.loops + 1 } test with
          | (inner, .next) =>
              if (inner.status == 0) != succeeds then
                (({ inner with loops := state.loops }).done 0, .next)
              else
                let (inner, flow) := executeAll fuel streams inner body
                let inner := { inner with loops := state.loops }
                match flow.afterBody with
                | none => execute fuel streams inner (.loop succeeds test body)
                | some flow => (inner, flow)
          | (inner, flow) => ({ inner with loops := state.loops }, flow)
      | .each name words body =>
          let (fields, state) := match words with
            | some words => expandWords fuel streams state words
            | none => (state.arguments, state)
          let (after, flow) := executeEach fuel streams
            ({ state with loops := state.loops + 1 }.done 0) name body fields
          ({ after with loops := state.loops }, flow)
      | .choice subject cases =>
          let (text, state) := expandText fuel streams state subject
          executeCases fuel streams state text.toList cases
      | .pipeline commands => checked (executePipes fuel streams state commands)
      | .negation command =>
          match executeTest fuel streams state [command] with
          | (state, .next) => (state.done (if state.status = 0 then 1 else 0), .next)
          | result => result
      | .both first second =>
          match executeTest fuel streams state [first] with
          | (state, .next) =>
              if state.status = 0 then execute fuel streams state second else (state, .next)
          | result => result
      | .either first second =>
          match executeTest fuel streams state [first] with
          | (state, .next) =>
              if state.status = 0 then (state, .next) else execute fuel streams state second
          | result => result
      | .background command =>
          let (after, _) := runApart fuel streams
            { state with patience := none, input := [] } [command]
          let ended := after.elapsed
          ({ state.rejoin after with
              input := state.input
              elapsed := state.elapsed
              background := (ended, after.status)
              held := if keepsOpen command && state.held < ended then ended else state.held
              status := 0 }, .next)
      | .function name body =>
          (({ state with functions := (name, body) :: state.functions }).done 0, .next)
termination_by structural fuel => fuel

end

def fuel : Nat := 5000

end Toolset.Shell
