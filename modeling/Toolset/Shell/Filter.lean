import Toolset.Shell.Files

/-!
# Filters

The tools that turn what is read into what is printed: they keep a part of it,
count it, or replace its bytes.
-/

namespace Toolset.Shell

def bytesByLine (bytes : List UInt8) : List (List UInt8) :=
  bytes.foldr (fun byte lines =>
    match byte == 10, lines with
    | true, lines => [byte] :: lines
    | false, [] => [[byte]]
    | false, line :: lines => (byte :: line) :: lines) []

/-- The count and the unit that words ask for, and the other words. -/
def countOption (words : List String) : Nat × Bool × List String :=
  match words with
  | "-n" :: n :: rest => (n.toNat?.getD 10, false, rest)
  | "-c" :: n :: rest => (n.toNat?.getD 10, true, rest)
  | word :: rest =>
      match word.toList with
      | '-' :: 'n' :: n => ((String.ofList n).toNat?.getD 10, false, rest)
      | '-' :: 'c' :: n => ((String.ofList n).toNat?.getD 10, true, rest)
      | '-' :: n => ((String.ofList n).toNat?.getD 10, false, rest)
      | _ => (10, false, word :: rest)
  | [] => (10, false, [])

/-- Print the first lines or bytes of files, or the last ones. -/
def head (state : State) (streams : Streams) (last : Bool) (words : List String) : State :=
  let (count, bytewise, paths) := countOption words
  let cut := fun (bytes : List UInt8) =>
    if bytewise then if last then bytes.drop (bytes.length - count) else bytes.take count
    else
      let lines := bytesByLine bytes
      (if last then lines.drop (lines.length - count) else lines.take count).flatten
  if paths.isEmpty then
    ({ state.write streams.output (cut state.input) with input := [] }).done 0
  else forEach state paths fun state path =>
    if path == "/dev/zero" && bytewise then
      state.write streams.output (List.replicate count 0)
    else
      match state.contentOf (state.resolve path) with
      | .ok content => state.write streams.output (cut (Text.encodeText content))
      | .error obstacle =>
          complain state streams (if last then "tail" else "head")
            ("cannot open '" ++ path ++ "' for reading: " ++ obstacle.reason)

/-- Print numbers in a row. -/
def seq (state : State) (streams : Streams) (words : List String) : State :=
  let numbers := words.map fun word => word.toInt?.getD 0
  let (first, step, last) := match numbers with
    | [last] => (1, 1, last)
    | [first, last] => (first, 1, last)
    | first :: step :: last :: _ => (first, step, last)
    | [] => (1, 1, 0)
  let count := if step = 0 then 0 else ((last - first) / step + 1).toNat
  (state.print streams.output (String.join ((List.range count).map fun (n : Nat) =>
    toString (first + step * Int.ofNat n) ++ "\n"))).done 0

/-- The characters that a set of them names, with escapes and ranges. -/
def namedBytes : (fuel : Nat) → List UInt8 → List UInt8
  | 0, _ => []
  | _, [] => []
  | fuel + 1, first :: 45 :: last :: rest =>
      (List.range (last.toNat + 1 - first.toNat)).map (fun n => first + UInt8.ofNat n) ++
        namedBytes fuel rest
  | fuel + 1, byte :: rest => byte :: namedBytes fuel rest

/-- Replace each byte by that at the same place of another set, or drop it. -/
def tr (state : State) (streams : Streams) (words : List String) : State :=
  let set := fun (text : String) =>
    let bytes := (escapedBytes false (text.length + 1) text.toList).1
    namedBytes bytes.length bytes
  let put := fun (change : UInt8 → Option UInt8) =>
    ({ state.write streams.output (state.input.filterMap change) with input := [] }).done 0
  match words with
  | ["-d", dropped] =>
      let dropped := set dropped
      put fun byte => if dropped.contains byte then none else some byte
  | [source, target] =>
      let (source, target) := (set source, set target)
      put fun byte =>
        match source.idxOf? byte with
        | some n => some ((target[n]?).getD (target.getLastD byte))
        | none => some byte
  | _ => complain state streams "tr" "missing operand"

/-- Count the lines, words or bytes that are read. -/
def wc (state : State) (streams : Streams) (words : List String) : State :=
  let count := match words with
    | ["-l"] => state.input.count 10
    | ["-c"] => state.input.length
    | _ =>
        let isBlank := fun (byte : UInt8) => byte == 32 || byte == 10 || byte == 9
        (state.input.splitBy fun a b => isBlank a == isBlank b).countP fun (word : List UInt8) =>
          !word.all isBlank
  ({ state.print streams.output (toString count ++ "\n") with input := [] }).done 0

end Toolset.Shell
