import Toolset.Decimal.Numeral
import Toolset.Text.Quoted

/-!
# The command line

The program has one command, whose options may be shortened as long as they
stay unambiguous.  Reading a command line goes in two steps: every word is first
told apart as an argument, an option or a separator, and then the words are
consumed in order.  Words that belong to nothing are refused at the end.
-/

namespace Toolset.CommandLine

/-- An option. -/
inductive Opt where
  | help
  | sourceUrl
  | revision
  | cloneName
  | subTool
  | workspaceRoot
  | installer
  | git
  | timeout
  | metricsGateway
  | logLevel
  | jsonLogs
  deriving DecidableEq, Repr

namespace Opt

/-- How an option is written. -/
def spellings : Opt → List String
  | .help => ["-h", "--help"]
  | .sourceUrl => ["--source-url"]
  | .revision => ["--revision"]
  | .cloneName => ["--clone-name"]
  | .subTool => ["--sub-tool"]
  | .workspaceRoot => ["--workspace-root"]
  | .installer => ["--installer"]
  | .git => ["--git"]
  | .timeout => ["--timeout"]
  | .metricsGateway => ["--metrics-gateway"]
  | .logLevel => ["--log-level"]
  | .jsonLogs => ["--json-logs"]

/-- How an option is called in a message. -/
def title (option : Opt) : String := "/".intercalate option.spellings

/-- The option needs an argument. -/
def takesArgument : Opt → Bool
  | .help => false
  | .jsonLogs => false
  | _ => true

end Opt

/-- Which words are looked at: those before the command, or those after it. -/
inductive Level where
  | program
  | command
  deriving DecidableEq, Repr

/-- The options at a level, in the order in which they are listed. -/
def Level.options : Level → List Opt
  | .program => [.help]
  | .command => [.help, .sourceUrl, .revision, .cloneName, .subTool, .workspaceRoot, .installer,
      .git, .timeout, .metricsGateway, .logLevel, .jsonLogs]

/-- The spellings at a level, each with its option. -/
def Level.spellings (level : Level) : List (String × Opt) :=
  level.options.flatMap fun option => option.spellings.map fun spelling => (spelling, option)

/-- What is written onto an option. -/
inductive Attachment where
  | none
  /-- Something after an equals sign. -/
  | equals (value : String)
  /-- Something right after a short option. -/
  | direct (rest : String)
  deriving DecidableEq, Repr

/-- What a word is. -/
inductive Token where
  | argument
  | separator
  | option (option : Opt) (attached : Attachment)
  /-- It looks like an option that there is not. -/
  | unknown
  deriving DecidableEq, Repr

/-- Why a command line is refused. -/
inductive Refusal where
  | ambiguous (word : String) (spellings : List String)
  | argumentExpected (option : Opt)
  | argumentIgnored (option : Opt) (value : String)
  | notANumber (option : Opt) (value : String)
  | notALevel (value : String)
  | notACommand (word : String)
  | commandMissing
  | unrecognized (words : List String)
  deriving DecidableEq, Repr

/-- The levels of the log that can be chosen. -/
def levelNames : List String := ["DEBUG", "INFO", "WARNING", "ERROR"]

/-- The command. -/
def commandName : String := "provision"

/-- What is said of a value that is not among the choices. -/
def choiceMessage (title value : String) (choices : List String) : String :=
  "argument " ++ title ++ ": invalid choice: " ++ Text.quoted value ++ " (choose from " ++
    ", ".intercalate (choices.map Text.quoted) ++ ")"

/-- What is said of a command line that is refused. -/
def Refusal.message : Refusal → String
  | .ambiguous word spellings =>
      "ambiguous option: " ++ word ++ " could match " ++ ", ".intercalate spellings
  | .argumentExpected option => "argument " ++ option.title ++ ": expected one argument"
  | .argumentIgnored option value =>
      "argument " ++ option.title ++ ": ignored explicit argument " ++ Text.quoted value
  | .notANumber option value =>
      "argument " ++ option.title ++ ": invalid float value: " ++ Text.quoted value
  | .notALevel value => choiceMessage Opt.logLevel.title value levelNames
  | .notACommand word => choiceMessage "command" word [commandName]
  | .commandMissing => "the following arguments are required: command"
  | .unrecognized words => "unrecognized arguments: " ++ " ".intercalate words

/-- Why reading a command line stops early. -/
inductive Stop where
  | help (level : Level)
  | refused (level : Level) (refusal : Refusal)
  deriving DecidableEq, Repr

def cutEquals (word : String) : String × Option String :=
  let (before, rest) := word.toList.span (· != '=')
  match rest with
  | [] => (word, none)
  | _ :: value => (String.ofList before, some (String.ofList value))

/-- What is attached by an equals sign, if there is one. -/
def attachment : Option String → Attachment
  | none => .none
  | some value => .equals value

/-- What is attached to a spelling by an equals sign. After a short option the
sign is left out, unless nothing follows it. -/
def attachedTo (spelling value : String) : Attachment :=
  if spelling.length = 2 && !value.isEmpty then .direct value else .equals value

/-- The word looks like a negative number: digits, with at most one point
before the last of them. A line feed at the end does not count. -/
def isNegativeNumber (word : String) : Bool :=
  match word.toList with
  | '-' :: cs =>
      let cs := if cs.getLast? == some '\n' then cs.dropLast else cs
      let (whole, rest) := cs.span Text.isDigit
      match rest with
      | [] => !whole.isEmpty
      | '.' :: fraction => !fraction.isEmpty && fraction.all Text.isDigit
      | _ => false
  | _ => false

/-- The options that a word which is no exact spelling may stand for. A word
with two dashes is a beginning of their spellings; one with a single dash starts
with a short option. -/
def meanings (level : Level) (word : String) : List (String × Opt × Attachment) :=
  match word.toList with
  | '-' :: '-' :: _ =>
      let (start, value) := cutEquals word
      (level.spellings.filter fun entry => start.toList.isPrefixOf entry.1.toList).map fun entry =>
        (entry.1, entry.2, attachment value)
  | '-' :: c :: rest =>
      (level.spellings.filter fun entry => entry.1.toList == ['-', c]).map fun entry =>
        (entry.1, entry.2, .direct (String.ofList rest))
  | _ => []

/-- What a word is that starts with a dash and is no exact spelling. -/
def unspelled (level : Level) (word : String) : Except Stop Token :=
  match meanings level word with
  | [(_, option, attached)] => .ok (.option option attached)
  | [] =>
      if isNegativeNumber word || word.toList.contains ' ' then .ok .argument else .ok .unknown
  | several => .error (.refused level (.ambiguous word (several.map (·.1))))

/-- What a word is, other than a separator. -/
def classify (level : Level) (word : String) : Except Stop Token :=
  match word.toList with
  | '-' :: _ :: _ =>
      match level.spellings.lookup word with
      | some option => .ok (.option option .none)
      | none =>
          match cutEquals word with
          | (start, some value) =>
              match level.spellings.lookup start with
              | some option => .ok (.option option (attachedTo start value))
              | none => unspelled level word
          | _ => unspelled level word
  | _ => .ok .argument

/-- The word after which everything is an argument. -/
def separatorWord : String := "--"

/-- What each word is. After a separator everything is an argument. -/
def classifyAll (level : Level) : List String → Except Stop (List (String × Token))
  | [] => .ok []
  | word :: rest =>
      if word = separatorWord then
        .ok ((word, .separator) :: rest.map fun argument => (argument, .argument))
      else do
        let token ← classify level word
        let others ← classifyAll level rest
        return (word, token) :: others

/-- The values that the options gave. Of an option given twice the last value
counts; tools are collected. -/
structure Arguments where
  sourceUrl : Option String := none
  revision : Option String := none
  cloneName : Option String := none
  subTools : Option (List String) := none
  workspaceRoot : Option String := none
  installer : Option String := none
  git : Option String := none
  timeout : Option Float := none
  metricsGateway : Option String := none
  logLevel : Option String := none
  jsonLogs : Bool := false
  deriving DecidableEq, Repr

/-- Give an option that takes an argument its value. -/
def Arguments.give (arguments : Arguments) (option : Opt) (value : String) :
    Except Refusal Arguments :=
  match option with
  | .help => .ok arguments
  | .jsonLogs => .ok arguments
  | .sourceUrl => .ok { arguments with sourceUrl := some value }
  | .revision => .ok { arguments with revision := some value }
  | .cloneName => .ok { arguments with cloneName := some value }
  | .subTool => .ok { arguments with subTools := some (arguments.subTools.getD [] ++ [value]) }
  | .workspaceRoot => .ok { arguments with workspaceRoot := some value }
  | .installer => .ok { arguments with installer := some value }
  | .git => .ok { arguments with git := some value }
  | .timeout =>
      match Decimal.givenNumber? value with
      | some x => .ok { arguments with timeout := some x }
      | none => .error (.notANumber option value)
  | .metricsGateway => .ok { arguments with metricsGateway := some value }
  | .logLevel =>
      if levelNames.contains value then .ok { arguments with logLevel := some value }
      else .error (.notALevel value)

/-- Read what follows the short option for help: the same option may follow
again and again, but nothing else. `none` stands for help. -/
def clusterRefusal? (rest : List Char) : Option Refusal :=
  match rest.dropWhile (· == 'h') with
  | [] => none
  | other => some (.argumentIgnored .help (String.ofList other))

/-- What an option without an argument does to what is attached to it. -/
def attachedRefusal? (option : Opt) : Attachment → Option Refusal
  | .none => none
  | .equals value => some (.argumentIgnored option value)
  | .direct rest => clusterRefusal? rest.toList

/-- Consume an option without an argument. -/
def flag (level : Level) (option : Opt) (attached : Attachment) (arguments : Arguments) :
    Except Stop Arguments :=
  match attachedRefusal? option attached with
  | some refusal => .error (.refused level refusal)
  | none =>
      if option = .help then .error (.help level) else .ok { arguments with jsonLogs := true }

/-- Consume the words after the command. What belongs to nothing is handed
back. -/
def consume : List (String × Token) → Arguments → Except Stop (Arguments × List String)
  | [], arguments => .ok (arguments, [])
  | (_, .option option attached) :: rest, arguments =>
      if option.takesArgument then
        match attached, rest with
        | .equals value, rest =>
            match arguments.give option value with
            | .ok arguments => consume rest arguments
            | .error refusal => .error (.refused .command refusal)
        | _, (value, .argument) :: rest =>
            match arguments.give option value with
            | .ok arguments => consume rest arguments
            | .error refusal => .error (.refused .command refusal)
        | _, _ => .error (.refused .command (.argumentExpected option))
      else
        match flag .command option attached arguments with
        | .ok arguments => consume rest arguments
        | .error stop => .error stop
  | (word, _) :: rest, arguments =>
      (consume rest arguments).map fun (arguments, extras) => (arguments, word :: extras)

def readCommand (words : List String) : Except Stop (Arguments × List String) := do
  consume (← classifyAll .command words) {}

/-- Consume the words up to the command, and read those after it. -/
def readProgram : List (String × Token) → Except Stop (Option Arguments × List String)
  | [] => .ok (none, [])
  | (_, .option option attached) :: rest =>
      match flag .program option attached {} with
      | .ok _ => readProgram rest
      | .error stop => .error stop
  | (word, .unknown) :: rest =>
      (readProgram rest).map fun (arguments, extras) => (arguments, word :: extras)
  | [(word, .separator)] => .ok (none, [word])
  | (word, _) :: rest =>
      if word = commandName then
        (readCommand (rest.map (·.1))).map fun (arguments, extras) => (some arguments, extras)
      else .error (.refused .program (.notACommand word))

def read (words : List String) : Except Stop Arguments := do
  match ← readProgram (← classifyAll .program words) with
  | (none, _) => .error (.refused .program .commandMissing)
  | (some arguments, []) => .ok arguments
  | (some _, extras) => .error (.refused .program (.unrecognized extras))

end Toolset.CommandLine
