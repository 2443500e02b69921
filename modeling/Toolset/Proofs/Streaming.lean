import Toolset.Proofs.Decoding
import Toolset.Proofs.Verdicts

/-!
# Streams of the installer

Both streams of the installer are read line by line, and each line is logged.  Nothing is
lost by that: as long as no line is too long, the lines joined again are the bytes of the
stream decoded whole, but for the line feed at the end, and so are the lines in the log.
A line that is too long ends the installation.
-/

namespace Toolset

namespace Installer

/-! ## Cutting lines -/

theorem splitOn_of_begun {begun : List UInt8} (inside : 10 ∉ begun) :
    begun.reverse.splitOn 10 = [begun.reverse] :=
  List.splitOn_eq_singleton (by rwa [List.mem_reverse])

/-- Where the bytes so far go on with a line feed, they make a piece of their own. -/
theorem splitOn_append_newline {begun : List UInt8} (inside : 10 ∉ begun) (rest : List UInt8) :
    (begun.reverse ++ 10 :: rest).splitOn 10 = begun.reverse :: rest.splitOn 10 := by
  rw [List.splitOn_append_cons_self, splitOn_of_begun inside, List.singleton_append]

theorem append_cons_eq (begun : List UInt8) (byte : UInt8) (rest : List UInt8) :
    begun.reverse ++ byte :: rest = (byte :: begun).reverse ++ rest := by
  simp

theorem cutFrom_of_short {begun bytes : List UInt8} (inside : 10 ∉ begun)
    (short : ∀ piece ∈ (begun.reverse ++ bytes).splitOn 10, piece.length ≤ longestLine) :
    cutFrom begun bytes =
      (Text.withoutEmptyLast ((begun.reverse ++ bytes).splitOn 10), none) := by
  induction bytes generalizing begun with
  | nil =>
      rw [List.append_nil, splitOn_of_begun inside] at short ⊢
      have fits : ¬longestLine < begun.length := by simpa using short
      rw [cutFrom, if_neg fits, Text.withoutEmptyLast, List.isEmpty_reverse]
      split <;> rfl
  | cons byte rest ih =>
      by_cases lineFeed : byte = 10
      · subst lineFeed
        rw [splitOn_append_newline inside, List.forall_mem_cons, List.length_reverse] at short
        obtain ⟨next, others, pieces⟩ :=
          List.exists_cons_of_ne_nil (List.splitOn_ne_nil 10 rest)
        have later : cutFrom [] rest = (Text.withoutEmptyLast (rest.splitOn 10), none) :=
          ih List.not_mem_nil short.2
        rw [cutFrom, if_pos rfl, if_neg (Nat.not_lt.2 short.1), later,
          splitOn_append_newline inside, pieces, Text.withoutEmptyLast]
      · rw [append_cons_eq] at short ⊢
        rw [cutFrom, if_neg lineFeed]
        apply ih _ short
        rw [List.mem_cons, not_or]
        exact ⟨Ne.symm lineFeed, inside⟩

theorem cutFrom_of_long {begun bytes : List UInt8} (inside : 10 ∉ begun)
    (long : ∃ piece ∈ (begun.reverse ++ bytes).splitOn 10, longestLine < piece.length) :
    ∃ ended, (cutFrom begun bytes).2 = some ended := by
  induction bytes generalizing begun with
  | nil =>
      rw [List.append_nil, splitOn_of_begun inside] at long
      have exceeds : longestLine < begun.length := by simpa using long
      have some : begun.isEmpty = false := by
        cases begun with
        | nil => cases exceeds
        | cons => rfl
      rw [cutFrom, some, if_pos exceeds]
      exact ⟨false, rfl⟩
  | cons byte rest ih =>
      by_cases lineFeed : byte = 10
      · subst lineFeed
        rw [cutFrom, if_pos rfl]
        split
        · exact ⟨true, rfl⟩
        · rename_i fits
          apply ih List.not_mem_nil
          rw [splitOn_append_newline inside] at long
          simpa [fits] using long
      · rw [append_cons_eq] at long
        rw [cutFrom, if_neg lineFeed]
        apply ih _ long
        rw [List.mem_cons, not_or]
        exact ⟨Ne.symm lineFeed, inside⟩

/-! ## Reading a stream -/

section

variable {bytes : List UInt8}

theorem read_of_short (short : ∀ line ∈ bytes.splitOn 10, line.length ≤ longestLine) :
    read (some ⟨bytes, none⟩) =
      ⟨(Text.withoutEmptyLast (bytes.splitOn 10)).map Text.decodeText, none⟩ := by
  have cut : cutFrom [] bytes = (Text.withoutEmptyLast (bytes.splitOn 10), none) :=
    cutFrom_of_short List.not_mem_nil short
  simp only [read, cut, Option.map_none]

theorem read_of_long (long : ∃ line ∈ bytes.splitOn 10, longestLine < line.length) :
    ∃ ended, (read (some ⟨bytes, none⟩)).ended = some (.overlong ended) := by
  obtain ⟨ended, cut⟩ : ∃ ended, (cutFrom [] bytes).2 = some ended :=
    cutFrom_of_long List.not_mem_nil long
  refine ⟨ended, ?_⟩
  rw [read]
  split
  · rename_i lines other equal
    rw [equal] at cut
    cases cut
    rfl
  · rename_i lines equal
    rw [equal] at cut
    cases cut

/-- The lines of a stream, joined, are its bytes decoded whole, but for the line feed at
their end. -/
theorem joined_of_short (short : ∀ line ∈ bytes.splitOn 10, line.length ≤ longestLine) :
    joined (read (some ⟨bytes, none⟩)) = String.ofList (Text.chomp (Text.decode bytes)) := by
  rw [read_of_short short, joined, ← Text.intercalate_map_decode, ← String.toList_inj,
    String.toList_intercalate, String.toList_ofList, List.map_map]
  have decoded : String.toList ∘ Text.decodeText = Text.decode := by
    funext bytes
    simp [Text.decodeText]
  rw [decoded, String.toList_ofList]

/-- Reading a stream that just runs out breaks off exactly at a line that is too long. -/
theorem ended_read (bytes : List UInt8) :
    (read (some ⟨bytes, none⟩)).ended = none ∧
        (∀ line ∈ bytes.splitOn 10, line.length ≤ longestLine) ∨
      (∃ ended, (read (some ⟨bytes, none⟩)).ended = some (.overlong ended)) ∧
        ¬∀ line ∈ bytes.splitOn 10, line.length ≤ longestLine := by
  by_cases short : ∀ line ∈ bytes.splitOn 10, line.length ≤ longestLine
  · left
    rw [read_of_short short]
    exact ⟨rfl, short⟩
  · right
    have long : ∃ line ∈ bytes.splitOn 10, longestLine < line.length := by simpa using short
    exact ⟨read_of_long long, short⟩

end

/-- Where nothing but lines that are too long breaks into the reading, the first of them
ends the wait. -/
theorem wait_of_overlong {limit : Option Seconds} {breaks : Breaks}
    (inTime : limit.all Seconds.leavesTime = true)
    (output : breaks.output = none ∨ ∃ ended, breaks.output = some (.overlong ended))
    (errors : breaks.errors = none ∨ ∃ ended, breaks.errors = some (.overlong ended))
    (broken : breaks.isCalm = false) : ∃ ended, wait limit breaks = .overlong ended := by
  have reading (failure : Break) (forever : breaks.waitForever = waitOfError failure)
      (underLimit : breaks.waitUnderLimit = waitOfError failure) :
      wait limit breaks = waitOfError failure := by
    cases limit with
    | none => exact forever
    | some limit =>
        have lasting : limit.isMomentary = false := by
          simp_all [Seconds.leavesTime]
        rw [wait, lasting]
        exact underLimit
  rcases breaks with ⟨first, second⟩
  dsimp only at output errors
  obtain rfl | ⟨ended, rfl⟩ := output
  · obtain rfl | ⟨ended, rfl⟩ := errors
    · cases broken
    · exact ⟨ended, reading (.overlong ended) rfl rfl⟩
  · obtain rfl | ⟨_, rfl⟩ := errors
    · exact ⟨ended, reading (.overlong ended) rfl rfl⟩
    · exact ⟨ended, reading (.overlong ended) rfl rfl⟩

/-! ## What is logged of a run -/

/-- What stands before each line of a stream in the log. -/
def heading (stream : String) : List Char := ("installer " ++ stream ++ ": ").toList

/-- The line of a stream that a record tells of. -/
def lineOf? (stream : String) (record : Log.Record) : Option String :=
  if record.level = .debug ∧ record.logger = logger ∧
      (heading stream).isPrefixOf record.message.toList then
    some (String.ofList (record.message.toList.drop (heading stream).length))
  else none

theorem lineOf?_lineRecord (stream line : String) :
    lineOf? stream (lineRecord stream line) = some line := by
  have message : (lineRecord stream line).message.toList = heading stream ++ line.toList :=
    String.toList_append
  rw [lineOf?, message, if_pos ⟨rfl, rfl, by simp⟩, List.drop_left, String.ofList_toList]

theorem lineOf?_errors (line : String) : lineOf? "stdout" (lineRecord "stderr" line) = none := by
  have message : (lineRecord "stderr" line).message.toList = heading "stderr" ++ line.toList :=
    String.toList_append
  have other : (heading "stdout").isPrefixOf (heading "stderr" ++ line.toList) = false := rfl
  rw [lineOf?, message, other, if_neg (by simp)]

theorem lineOf?_startRecord (installer : Installer) (stream : String) (tool : Path) :
    lineOf? stream (installer.startRecord tool) = none := rfl

theorem lineOf?_endRecord (stream : String) (tool : Path) (result : InstallResult) :
    lineOf? stream (endRecord tool result) = none := by
  rw [endRecord]
  split <;> rfl

/-- Some records were logged between two worlds, as far as the host lets them pass. -/
def Logged (host : Host) (before after : World) (records : List Log.Record) : Prop :=
  after.log = before.log ++ records.filter (·.level.passes host.threshold)

namespace Logged

variable {host : Host} {before middle after : World} {records later : List Log.Record}

theorem refl (world : World) : Logged host world world [] := by
  simp [Logged]

theorem trans (first : Logged host before middle records)
    (second : Logged host middle after later) : Logged host before after (records ++ later) := by
  rw [Logged] at first second ⊢
  rw [second, first, List.filter_append, List.append_assoc]

theorem single (world : World) (record : Log.Record) :
    Logged host world (world.logged host record) [record] := by
  rw [Logged, World.logged, List.filter_cons]
  split <;> simp

theorem of_same (same : after.log = before.log) : Logged host before after [] := by
  simp [Logged, same]

end Logged

variable {host : Host} {before after : World}

theorem logged_of_logLines {stream : String} {lines : List String} {outcome : Except Ending Unit}
    (ran : (logLines stream lines).Leads host before outcome after) :
    Logged host before after (lines.map (lineRecord stream)) := by
  induction lines generalizing before with
  | nil =>
      rw [logLines] at ran
      obtain ⟨_, rfl⟩ := Act.leads_pure.1 ran
      exact .refl _
  | cons line rest ih =>
      rw [logLines, Act.leads_log_bind] at ran
      exact (Logged.single before (lineRecord stream line)).trans (ih ran)

theorem logged_of_launch {start : Start}
    {outcome : Except Ending (Except Interruption Running)}
    (ran : (launch start).Leads host before outcome after) : Logged host before after [] := by
  rw [launch] at ran
  simp only [Act.leads_get_bind, Act.leads_read_bind] at ran
  generalize (host.program before.calls.length start before.tree).settle before.tree = answer
    at ran
  rcases answer with ⟨tree, behaviour⟩
  simp only [Act.leads_set_bind, Act.leads_perform_bind] at ran
  cases behaviour with
  | refused interruption =>
      obtain ⟨_, rfl⟩ := Act.leads_pure.1 ran
      exact .of_same rfl
  | nullCharacter =>
      obtain ⟨_, rfl⟩ := Act.leads_throw.1 ran
      exact .of_same rfl
  | runs process =>
      simp only [Act.leads_get_bind, Act.leads_perform_bind] at ran
      obtain ⟨_, rfl⟩ := Act.leads_pure.1 ran
      exact .of_same rfl

/-- Of a process that is awaited to its end, the lines of both streams are logged. -/
theorem logged_of_collect {installer : Installer} {process : Process}
    {outcome : Except Ending Wait} (finished : installer.finishes (.runs process) = true)
    (ran : (collect installer.limit process).Leads host before outcome after) :
    Logged host before after ((read process.output).lines.map (lineRecord "stdout") ++
      (read process.errors).lines.map (lineRecord "stderr")) := by
  rw [finishes, Bool.and_eq_true] at finished
  have inTime : installer.limit.any Seconds.isOver = false ∧
      installer.limit.any Seconds.isTooLarge = false := by
    cases limit : installer.limit <;> simp_all [Seconds.leavesTime]
  have calm : (read process.output).ended = none := by
    simp_all [breaksOf, Breaks.isCalm]
  have reads : readsErrors installer.limit ⟨none, (read process.errors).ended⟩ = true := by
    simp [readsErrors]
  rw [collect, inTime.1, inTime.2] at ran
  simp only [Bool.false_eq_true, ↓reduceIte, calm, reads] at ran
  obtain ⟨middle, output, _⟩ := logLines_leads "stdout" (read process.output).lines host before
  obtain ⟨last, errors, _⟩ := logLines_leads "stderr" (read process.errors).lines host middle
  rw [Act.leads_bind_of_ok output, Act.leads_bind_of_ok errors] at ran
  obtain ⟨_, rfl⟩ := Act.leads_pure.1 ran
  exact (logged_of_logLines output).trans (logged_of_logLines errors)

/-- Of an installation that ends by itself, the lines of both streams are logged, between a
record of its start and one of its end. -/
theorem logged_of_run {installer : Installer} {tool : Path} {directory : Option Path}
    {process : Process} {tree : FileTree} {outcome : Except Ending InstallResult}
    (starts : (host.program before.calls.length (installer.start tool directory)
      before.tree).settle before.tree = (tree, .runs process))
    (finished : installer.finishes (.runs process) = true)
    (ran : (installer.run tool directory).Leads host before outcome after) :
    ∃ result, Logged host before after ([installer.startRecord tool] ++
      ((read process.output).lines.map (lineRecord "stdout") ++
        (read process.errors).lines.map (lineRecord "stderr")) ++ [endRecord tool result]) := by
  rw [run, Act.leads_clock_bind, Act.leads_log_bind] at ran
  have begins : Logged host (Act.ticked host before) _ [installer.startRecord tool] :=
    Logged.single _ _
  have same := SameDeeds.logged (Act.ticked host before) host (installer.startRecord tool)
  obtain ⟨launched, middle, launches⟩ := (launch (installer.start tool directory)).exists_leads
    host ((Act.ticked host before).logged host (installer.startRecord tool))
  obtain ⟨behaviour, settled, came⟩ := launch_leads launches
  rw [same.calls, same.tree] at settled
  cases settled.symm.trans starts
  obtain ⟨pid, rfl, _⟩ := came
  obtain ⟨last, collects, _⟩ := collect_leads installer process host middle
  have done := verdict_of_finishes finished
  rw [done] at collects
  rw [Act.leads_bind_of_ok launches] at ran
  dsimp only at ran
  rw [await, Act.leads_bind_of_ok collects] at ran
  simp only [Act.leads_perform_bind, finish, Act.leads_clock_bind, Act.leads_log_bind] at ran
  obtain ⟨_, rfl⟩ := Act.leads_pure.1 ran
  refine ⟨_, ((begins.trans (logged_of_launch launches)).trans
    (logged_of_collect finished collects)).trans (Logged.single _ _)⟩

/-- The lines of the output can be read off the records of a run. -/
theorem filterMap_lineOf? (installer : Installer) (tool : Path) (output errors : List String)
    (result : InstallResult) :
    ([installer.startRecord tool] ++ (output.map (lineRecord "stdout") ++
      errors.map (lineRecord "stderr")) ++ [endRecord tool result]).filterMap (lineOf? "stdout") =
      output := by
  have lines : (output.map (lineRecord "stdout")).filterMap (lineOf? "stdout") = output := by
    have same : lineOf? "stdout" ∘ lineRecord "stdout" = some := by
      funext line
      exact lineOf?_lineRecord "stdout" line
    rw [List.filterMap_map, same, List.filterMap_some]
  have others : (errors.map (lineRecord "stderr")).filterMap (lineOf? "stdout") = [] := by
    rw [List.filterMap_map, List.filterMap_eq_nil_iff]
    intro line _
    exact lineOf?_errors line
  rw [List.filterMap_append, List.filterMap_append, List.filterMap_append, lines, others]
  simp [lineOf?_startRecord, lineOf?_endRecord]

theorem passes_of_debug {threshold : Log.Threshold}
    (debug : Log.Level.debug.passes threshold = true) (level : Log.Level) :
    level.passes threshold = true := by
  apply Log.Level.passes_of_le debug
  cases level <;> decide

/-! ## Results of streams -/

/-- A process that just writes some bytes is awaited to its end, unless a line of them is
too long. -/
theorem verdict_of_streams {installer : Installer} {process : Process}
    {output errors : List UInt8} (writes : process.output = some ⟨output, none⟩)
    (complains : process.errors = some ⟨errors, none⟩)
    (inTime : installer.limit.all Seconds.leavesTime = true) :
    installer.finishes (.runs process) = true ∧
        (∀ line ∈ output.splitOn 10 ++ errors.splitOn 10, line.length ≤ longestLine) ∨
      (∃ ended, installer.verdict process = .overlong ended) ∧
        ¬∀ line ∈ output.splitOn 10 ++ errors.splitOn 10, line.length ≤ longestLine := by
  have breaks : breaksOf process =
      ⟨(read (some ⟨output, none⟩)).ended, (read (some ⟨errors, none⟩)).ended⟩ := by
    rw [breaksOf, writes, complains]
  have broken (long : (breaksOf process).isCalm = false)
      (first : (breaksOf process).output = none ∨
        ∃ ended, (breaksOf process).output = some (.overlong ended))
      (second : (breaksOf process).errors = none ∨
        ∃ ended, (breaksOf process).errors = some (.overlong ended)) :
      ∃ ended, installer.verdict process = .overlong ended := by
    obtain ⟨ended, waits⟩ := wait_of_overlong inTime first second long
    refine ⟨ended, ?_⟩
    rw [← waits]
    exact verdict_of_leavesTime inTime
  rw [finishes, inTime, Bool.true_and, List.forall_mem_append]
  obtain ⟨calm, short⟩ | ⟨⟨ended, long⟩, unfit⟩ := ended_read output
  · obtain ⟨calmToo, shortToo⟩ | ⟨⟨ended, long⟩, unfit⟩ := ended_read errors
    · left
      rw [breaks, Breaks.isCalm, calm, calmToo]
      exact ⟨rfl, short, shortToo⟩
    · right
      refine ⟨broken ?_ ?_ ?_, fun all => unfit all.2⟩
      · rw [breaks, Breaks.isCalm, calm, long]
        rfl
      · rw [breaks]
        exact .inl calm
      · rw [breaks]
        exact .inr ⟨ended, long⟩
  · right
    refine ⟨broken ?_ ?_ ?_, fun all => unfit all.1⟩
    · rw [breaks, Breaks.isCalm, long]
      rfl
    · rw [breaks]
      exact .inr ⟨ended, long⟩
    · rw [breaks]
      exact (ended_read errors).imp And.left And.left

/-- What an installation makes of the bytes that are written to its output and its errors.
There is a result exactly if no line is longer than can be read, and if there is none, a line
was too long.  A result holds the bytes decoded whole, but for a line feed at their end, and
the lines of the output in the log, joined, are the output. -/
structure Streamed (host : Host) (before after : World) (output errors : List UInt8)
    (outcome : Except Ending InstallResult) : Prop where
  result_iff : (∃ result, outcome = .ok result) ↔
    ∀ line ∈ output.splitOn 10 ++ errors.splitOn 10, line.length ≤ longestLine
  overlong : ∀ ending, outcome = .error ending → ∃ ended, ending = .overlong ended
  decoded : ∀ result, outcome = .ok result →
    result.output = String.ofList (Text.chomp (Text.decode output)) ∧
      result.errors = String.ofList (Text.chomp (Text.decode errors))
  logged : ∃ records, after.log = before.log ++ records ∧
    ∀ result, outcome = .ok result → Log.Level.debug.passes host.threshold = true →
      "\n".intercalate (records.filterMap (lineOf? "stdout")) = result.output

/-- Nothing is lost of what an installer writes that starts, if nothing breaks into the
reading of its streams and its limit leaves time for that. -/
theorem run_streamed {installer : Installer} {tool : Path} {directory : Option Path}
    {process : Process} {tree : FileTree} {output errors : List UInt8}
    (starts : (host.program before.calls.length (installer.start tool directory)
      before.tree).settle before.tree = (tree, .runs process))
    (writes : process.output = some ⟨output, none⟩)
    (complains : process.errors = some ⟨errors, none⟩)
    (inTime : installer.limit.all Seconds.leavesTime = true) :
    ∃ outcome after, (installer.run tool directory).Leads host before outcome after ∧
      Streamed host before after output errors outcome := by
  obtain ⟨outcome, after, ran⟩ := (installer.run tool directory).exists_leads host before
  obtain ⟨behaviour, duration, called, rfl⟩ := run_leads ran
  cases called.settled.symm.trans starts
  refine ⟨_, after, ran, ?_⟩
  obtain ⟨finished, short⟩ | ⟨⟨ended, overlong⟩, long⟩ :=
    verdict_of_streams writes complains inTime
  · have done := verdict_of_finishes finished
    obtain ⟨result, logged⟩ := logged_of_run starts finished ran
    rw [conclusion, done, writes, complains]
    have decoded := List.forall_mem_append.1 short
    constructor
    · exact iff_of_true ⟨_, rfl⟩ short
    · intro ending concluded
      cases concluded
    · intro result concluded
      cases concluded
      exact ⟨joined_of_short decoded.1, joined_of_short decoded.2⟩
    · refine ⟨_, logged, ?_⟩
      intro result concluded debug
      cases concluded
      rw [List.filter_eq_self.2 fun record _ => passes_of_debug debug record.level,
        filterMap_lineOf?, writes]
      rfl
  · obtain ⟨_, added⟩ := called.added
    obtain ⟨records, log⟩ := added.log
    rw [conclusion, overlong]
    constructor
    · exact iff_of_false (by simp) long
    · intro ending concluded
      cases concluded
      exact ⟨ended, rfl⟩
    · intro result concluded
      cases concluded
    · refine ⟨records, log.symm, ?_⟩
      intro result concluded
      cases concluded

/-- A character that breaks off before a line feed, an empty line, a carriage return, and a
last line that is not ended. -/
def sampleOutput : List UInt8 := [0xe2, 0x82, 10, 10, 13, 10, 111, 107]

example : String.ofList (Text.chomp (Text.decode sampleOutput)) = "\ufffd\n\n\r\nok" := by decide

def sampleHost : Host where
  program := fun _ _ _ => .runs { output := some ⟨sampleOutput, none⟩ }

def sampleInstaller : Installer where
  command := ["install"]
  limit := some (.whole 60)

theorem run_streamed_sample :
    (sampleHost.program 0 (sampleInstaller.start ⟨.here, ["fuzz"]⟩ none) .empty).settle .empty =
        (.empty, .runs { output := some ⟨sampleOutput, none⟩ }) ∧
      sampleInstaller.limit.all Seconds.leavesTime = true ∧
      ∃ outcome after,
        (sampleInstaller.run ⟨.here, ["fuzz"]⟩ none).Leads sampleHost {} outcome after ∧
        Streamed sampleHost {} after sampleOutput [] outcome :=
  ⟨rfl, by decide, run_streamed rfl rfl rfl (by decide)⟩

end Installer

end Toolset
