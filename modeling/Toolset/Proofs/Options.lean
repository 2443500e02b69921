import Mathlib.Data.List.TakeDrop
import Toolset.CommandLine

/-!
# Options with values

A command line that is read gives options values, one after another, and says nothing else.
Which options it gives does not depend on what was given before, so parts of a command line
may be read by themselves and put together.  Of an option that was given several times the
last value counts; tools are collected.  A value that is written behind an equals sign is
read as it is.
-/

namespace Toolset.CommandLine

/-- An option with the value that it was given; one that takes no argument is given nothing. -/
abbrev Gift := Opt × String

/-- The words, told apart, give options values. -/
inductive Gives : List (String × Token) → List Gift → Prop where
  | nil : Gives [] []
  | attached {word value : String} {option : Opt} {rest : List (String × Token)}
      {gifts : List Gift} :
      option.takesArgument = true → Gives rest gifts →
      Gives ((word, .option option (.equals value)) :: rest) ((option, value) :: gifts)
  | next {word value : String} {option : Opt} {attached : Attachment}
      {rest : List (String × Token)} {gifts : List Gift} :
      option.takesArgument = true → (∀ other, attached ≠ .equals other) → Gives rest gifts →
      Gives ((word, .option option attached) :: (value, .argument) :: rest)
        ((option, value) :: gifts)
  | flag {word : String} {attached : Attachment} {rest : List (String × Token)}
      {gifts : List Gift} :
      attachedRefusal? .jsonLogs attached = none → Gives rest gifts →
      Gives ((word, .option .jsonLogs attached) :: rest) ((.jsonLogs, "") :: gifts)

theorem Gives.append {first second : List (String × Token)} {gifts more : List Gift}
    (one : Gives first gifts) (two : Gives second more) :
    Gives (first ++ second) (gifts ++ more) := by
  induction one with
  | nil => exact two
  | attached takes _ ih => exact .attached takes ih
  | next takes apart _ ih => exact .next takes apart ih
  | flag fits _ ih => exact .flag fits ih

theorem Gives.ne_separator {tokens : List (String × Token)} {gifts : List Gift}
    (gives : Gives tokens gifts) : ∀ token ∈ tokens, token.2 ≠ .separator := by
  induction gives with
  | nil => simp
  | attached _ _ ih => simpa using ih
  | next _ _ _ ih => simpa using ih
  | flag _ _ ih => simpa using ih

/-! ## What the gifts come to -/

/-- The option takes the value. -/
def Gift.fits : Gift → Bool
  | (.timeout, value) => (Decimal.givenNumber? value).isSome
  | (.logLevel, value) => levelNames.contains value
  | _ => true

/-- The values that an option was given, in order. -/
def valuesOf (gifts : List Gift) (option : Opt) : List String :=
  (gifts.filter fun gift => gift.1 = option).map Prod.snd

theorem valuesOf_append (gifts more : List Gift) (option : Opt) :
    valuesOf (gifts ++ more) option = valuesOf gifts option ++ valuesOf more option := by
  rw [valuesOf, List.filter_append, List.map_append]
  rfl

theorem valuesOf_concat (gifts : List Gift) (given option : Opt) (value : String) :
    valuesOf (gifts ++ [(given, value)]) option =
      if given = option then valuesOf gifts option ++ [value] else valuesOf gifts option := by
  rw [valuesOf_append]
  split
  · rename_i same
    subst same
    simp [valuesOf]
  · rename_i other
    simp [valuesOf, other]

theorem ne_of_valuesOf_eq_nil {gifts : List Gift} {option : Opt}
    (none : valuesOf gifts option = []) : ∀ gift ∈ gifts, gift.1 ≠ option := by
  intro gift member same
  rw [valuesOf, List.map_eq_nil_iff, List.filter_eq_nil_iff] at none
  exact none gift member (decide_eq_true same)

/-- The tools that were given, if any were. -/
def collected : List String → Option (List String)
  | [] => none
  | tools => some tools

theorem collected_eq_none_iff {tools : List String} : collected tools = none ↔ tools = [] := by
  cases tools <;> simp [collected]

theorem collected_of_ne_nil {tools : List String} (some : tools ≠ []) :
    collected tools = Option.some tools := by
  cases tools with
  | nil => exact absurd rfl some
  | cons tool rest => rfl

theorem getD_collected (tools : List String) : (collected tools).getD [] = tools := by
  cases tools <;> rfl

namespace Arguments

/-- What a command line that gives these comes to. -/
def ofGifts (gifts : List Gift) : Arguments where
  sourceUrl := (valuesOf gifts .sourceUrl).getLast?
  revision := (valuesOf gifts .revision).getLast?
  cloneName := (valuesOf gifts .cloneName).getLast?
  subTools := collected (valuesOf gifts .subTool)
  workspaceRoot := (valuesOf gifts .workspaceRoot).getLast?
  installer := (valuesOf gifts .installer).getLast?
  git := (valuesOf gifts .git).getLast?
  timeout := (valuesOf gifts .timeout).getLast?.bind Decimal.givenNumber?
  metricsGateway := (valuesOf gifts .metricsGateway).getLast?
  logLevel := (valuesOf gifts .logLevel).getLast?
  jsonLogs := !(valuesOf gifts .jsonLogs).isEmpty

/-- Take what is given next. -/
def receive (arguments : Arguments) : Gift → Except Refusal Arguments
  | (.jsonLogs, _) => .ok { arguments with jsonLogs := true }
  | (option, value) => arguments.give option value

/-- A gift that fits adds to what was given before, and no other is taken. -/
theorem receive_ofGifts (gifts : List Gift) (gift : Gift) (arguments : Arguments) :
    (ofGifts gifts).receive gift = .ok arguments ↔
      gift.fits = true ∧ arguments = ofGifts (gifts ++ [gift]) := by
  rcases gift with ⟨option, value⟩
  rw [eq_comm (a := arguments)]
  cases option with
  | timeout =>
      cases read : Decimal.givenNumber? value <;>
        simp [receive, give, Gift.fits, read, ofGifts, valuesOf_concat]
  | logLevel =>
      by_cases known : value ∈ levelNames <;>
        simp [receive, give, Gift.fits, known, ofGifts, valuesOf_concat]
  | subTool =>
      simp [receive, give, Gift.fits, ofGifts, valuesOf_concat, getD_collected,
        collected_of_ne_nil]
  | jsonLogs =>
      have some : (valuesOf gifts .jsonLogs ++ [value]).isEmpty = false := by simp
      simp [receive, Gift.fits, ofGifts, valuesOf_concat, some]
  | _ => simp [receive, give, Gift.fits, ofGifts, valuesOf_concat]

theorem foldlM_receive_cons_iff {before after : Arguments} {gift : Gift} {gifts : List Gift} :
    (gift :: gifts).foldlM receive before = .ok after ↔
      ∃ middle, before.receive gift = .ok middle ∧ gifts.foldlM receive middle = .ok after := by
  rw [List.foldlM_cons]
  cases before.receive gift with
  | error refusal => simp [bind, Except.bind]
  | ok middle => simp [bind, Except.bind]

/-- What is given one after another comes to what was given last, if all of it fits. -/
theorem foldlM_receive_iff {gifts : List Gift} {arguments : Arguments} :
    gifts.foldlM receive {} = .ok arguments ↔
      (∀ gift ∈ gifts, gift.fits = true) ∧ arguments = ofGifts gifts := by
  -- the gifts before the last are generalized to, so that the start stays empty
  suffices general : ∀ earlier : List Gift,
      gifts.foldlM receive (ofGifts earlier) = .ok arguments ↔
        (∀ gift ∈ gifts, gift.fits = true) ∧ arguments = ofGifts (earlier ++ gifts) from
    general []
  induction gifts with
  | nil =>
      intro earlier
      rw [List.foldlM_nil, List.append_nil, eq_comm (a := arguments)]
      change Except.ok (ofGifts earlier) = .ok arguments ↔ _
      simp
  | cons gift gifts ih =>
      intro earlier
      rw [foldlM_receive_cons_iff, List.forall_mem_cons]
      constructor
      · rintro ⟨middle, received, rest⟩
        rcases (receive_ofGifts earlier gift middle).1 received with ⟨fits, rfl⟩
        rcases (ih _).1 rest with ⟨others, rfl⟩
        exact ⟨⟨fits, others⟩, by rw [List.append_assoc, List.singleton_append]⟩
      · rintro ⟨⟨fits, others⟩, rfl⟩
        refine ⟨_, (receive_ofGifts earlier gift _).2 ⟨fits, rfl⟩, (ih _).2 ⟨others, ?_⟩⟩
        rw [List.append_assoc, List.singleton_append]

theorem receive_eq_give {option : Opt} (takes : option.takesArgument = true)
    (arguments : Arguments) (value : String) :
    arguments.receive (option, value) = arguments.give option value := by
  cases option with
  | jsonLogs => cases takes
  | _ => rfl

end Arguments

/-! ## What is consumed -/

/-- An option without an argument that is consumed is that of the log. -/
theorem flag_eq_ok_iff {option : Opt} {attached : Attachment} {before after : Arguments}
    (takesNone : ¬option.takesArgument = true) :
    flag .command option attached before = .ok after ↔
      option = .jsonLogs ∧ attachedRefusal? .jsonLogs attached = none ∧
        after = { before with jsonLogs := true } := by
  rw [flag, eq_comm (a := after)]
  cases option with
  | help => cases attachedRefusal? .help attached <;> simp
  | jsonLogs => cases attachedRefusal? .jsonLogs attached <;> simp
  | _ => exact absurd rfl takesNone

theorem gives_of_consume {tokens : List (String × Token)} {before after : Arguments}
    (consumed : consume tokens before = .ok (after, [])) :
    ∃ gifts, Gives tokens gifts ∧ gifts.foldlM Arguments.receive before = .ok after := by
  fun_induction consume tokens before with
  | case1 before =>
      cases consumed
      exact ⟨[], .nil, rfl⟩
  | case2 _ option before takes value rest middle given ih =>
      rcases ih consumed with ⟨gifts, gives, received⟩
      refine ⟨_, .attached takes gives, Arguments.foldlM_receive_cons_iff.2 ⟨middle, ?_, received⟩⟩
      rw [Arguments.receive_eq_give takes, given]
  | case4 _ option attached before takes value rest middle given apart ih =>
      rcases ih consumed with ⟨gifts, gives, received⟩
      refine ⟨_, .next takes (fun other => apart other) gives,
        Arguments.foldlM_receive_cons_iff.2 ⟨middle, ?_, received⟩⟩
      rw [Arguments.receive_eq_give takes, given]
  | case7 _ option attached rest before flagged middle raised ih =>
      rcases ih consumed with ⟨gifts, gives, received⟩
      rcases (flag_eq_ok_iff flagged).1 raised with ⟨rfl, fits, rfl⟩
      exact ⟨_, .flag fits gives, Arguments.foldlM_receive_cons_iff.2 ⟨_, rfl, received⟩⟩
  | case9 word token rest before other ih =>
      cases later : consume rest before with
      | error stop =>
          rw [later] at consumed
          cases consumed
      | ok read =>
          rw [later] at consumed
          cases consumed
  | _ => cases consumed

/-- Words that give values are consumed, as far as the values fit. -/
theorem consume_of_gives {tokens : List (String × Token)} {gifts : List Gift}
    {before after : Arguments} (gives : Gives tokens gifts)
    (received : gifts.foldlM Arguments.receive before = .ok after) :
    consume tokens before = .ok (after, []) := by
  induction gives generalizing before with
  | nil =>
      cases received
      rfl
  | attached takes _ ih =>
      rcases Arguments.foldlM_receive_cons_iff.1 received with ⟨middle, first, received⟩
      rw [Arguments.receive_eq_give takes] at first
      rw [consume, if_pos takes]
      simp only [first]
      exact ih received
  | next takes apart _ ih =>
      rcases Arguments.foldlM_receive_cons_iff.1 received with ⟨middle, first, received⟩
      rw [Arguments.receive_eq_give takes] at first
      rw [consume, if_pos takes]
      · simp only [first]
        exact ih received
      · exact apart
  | flag fits _ ih =>
      rcases Arguments.foldlM_receive_cons_iff.1 received with ⟨middle, first, received⟩
      cases first
      have takesNone : ¬Opt.jsonLogs.takesArgument = true := Bool.false_ne_true
      rw [consume.eq_def]
      dsimp only
      rw [if_neg takesNone, (flag_eq_ok_iff takesNone).2 ⟨rfl, fits, rfl⟩]
      exact ih received

/-! ## Words told apart -/

/-- Words without a separator are told apart one after another. -/
theorem classifyAll_append {level : Level} {words rest : List String}
    {tokens others : List (String × Token)} (first : classifyAll level words = .ok tokens)
    (apart : ∀ token ∈ tokens, token.2 ≠ .separator)
    (second : classifyAll level rest = .ok others) :
    classifyAll level (words ++ rest) = .ok (tokens ++ others) := by
  induction words generalizing tokens with
  | nil =>
      cases first
      exact second
  | cons word words ih =>
      rw [classifyAll] at first
      rw [List.cons_append, classifyAll]
      split at first
      · cases first
        exact absurd rfl (apart _ List.mem_cons_self)
      · rename_i ordinary
        rw [if_neg ordinary]
        cases told : classify level word with
        | error stop =>
            rw [told] at first
            cases first
        | ok token =>
            rw [told] at first
            cases later : classifyAll level words with
            | error stop =>
                rw [later] at first
                cases first
            | ok more =>
                rw [later] at first
                cases first
                rw [ih later fun token member => apart token (List.mem_cons_of_mem _ member)]
                rfl

/-- The words after the command give options values. -/
def Offers (words : List String) (gifts : List Gift) : Prop :=
  ∃ tokens, classifyAll .command words = .ok tokens ∧ Gives tokens gifts

theorem offers_nil : Offers [] [] := ⟨[], rfl, .nil⟩

theorem Offers.append {words rest : List String} {gifts more : List Gift}
    (first : Offers words gifts) (second : Offers rest more) :
    Offers (words ++ rest) (gifts ++ more) := by
  rcases first with ⟨tokens, told, gives⟩
  rcases second with ⟨others, toldToo, givesToo⟩
  exact ⟨_, classifyAll_append told gives.ne_separator toldToo, gives.append givesToo⟩

theorem readCommand_eq_ok_iff {words : List String} {arguments : Arguments} :
    readCommand words = .ok (arguments, []) ↔
      ∃ gifts, Offers words gifts ∧ (∀ gift ∈ gifts, gift.fits = true) ∧
        arguments = .ofGifts gifts := by
  rw [readCommand]
  constructor
  · intro read
    cases told : classifyAll .command words with
    | error stop =>
        rw [told] at read
        cases read
    | ok tokens =>
        rw [told] at read
        rcases gives_of_consume read with ⟨gifts, gives, received⟩
        exact ⟨gifts, ⟨tokens, told, gives⟩, Arguments.foldlM_receive_iff.1 received⟩
  · rintro ⟨gifts, ⟨tokens, told, gives⟩, fit⟩
    rw [told]
    exact consume_of_gives gives (Arguments.foldlM_receive_iff.2 fit)

/-! ## A value behind an equals sign -/

/-- The word that gives an option a value. -/
def Opt.word (option : Opt) (value : String) : String := option.title ++ "=" ++ value

/-- A spelling without an equals sign is cut off in front of the first. -/
theorem cutEquals_append {spelling : String} (plain : '=' ∉ spelling.toList) (value : String) :
    cutEquals (spelling ++ "=" ++ value) = (spelling, some value) := by
  have kept : ∀ c ∈ spelling.toList, (c != '=') = true := by
    intro c member
    rw [bne_iff_ne]
    rintro rfl
    exact plain member
  have cut : (spelling ++ "=" ++ value).toList.span (· != '=') =
      (spelling.toList, '=' :: value.toList) := by
    rw [String.toList_append, String.toList_append, List.append_assoc,
      List.span_eq_takeWhile_dropWhile, List.takeWhile_append_of_pos kept,
      List.dropWhile_append_of_pos kept]
    simp
  rw [cutEquals, cut]
  simp

theorem lookup_of_equals {word : String} (equals : '=' ∈ word.toList) :
    Level.command.spellings.lookup word = none := by
  rw [List.lookup_eq_none_iff]
  intro entry member
  rw [bne_iff_ne]
  rintro rfl
  have plain : ∀ entry ∈ Level.command.spellings, '=' ∉ entry.1.toList := by decide +kernel
  exact plain entry member equals

/-- An option with an argument has one spelling, with two dashes in front. -/
structure IsLong (option : Opt) : Prop where
  dashes : ∃ rest, option.title.toList = '-' :: '-' :: rest
  plain : '=' ∉ option.title.toList
  known : Level.command.spellings.lookup option.title = some option
  notShort : option.title.length ≠ 2

theorem isLong_of_takesArgument {option : Opt} (takes : option.takesArgument = true) :
    IsLong option := by
  cases option with
  | help => cases takes
  | jsonLogs => cases takes
  | _ => exact ⟨⟨_, rfl⟩, by decide +kernel, by decide +kernel, by decide +kernel⟩

theorem classify_word {option : Opt} (takes : option.takesArgument = true) (value : String) :
    classify .command (option.word value) = .ok (.option option (.equals value)) := by
  have long := isLong_of_takesArgument takes
  rcases long.dashes with ⟨rest, dashes⟩
  have spelled : (option.word value).toList = '-' :: '-' :: (rest ++ '=' :: value.toList) := by
    rw [Opt.word, String.toList_append, String.toList_append, dashes]
    simp
  have unknown : Level.command.spellings.lookup (option.word value) = none :=
    lookup_of_equals (by simp [spelled])
  have cut : cutEquals (option.word value) = (option.title, some value) :=
    cutEquals_append long.plain value
  rw [classify, spelled]
  simp only [unknown, cut, long.known, attachedTo]
  rw [if_neg (by simp [long.notShort])]

theorem offers_word {option : Opt} (takes : option.takesArgument = true) (value : String) :
    Offers [option.word value] [(option, value)] := by
  refine ⟨[(option.word value, .option option (.equals value))], ?_, .attached takes .nil⟩
  have ordinary : option.word value ≠ separatorWord := by
    intro equal
    have equals : '=' ∈ (option.word value).toList := by simp [Opt.word]
    rw [equal] at equals
    revert equals
    decide
  rw [classifyAll, if_neg ordinary, classify_word takes]
  rfl

theorem offers_words {gifts : List Gift} (take : ∀ gift ∈ gifts, gift.1.takesArgument = true) :
    Offers (gifts.map fun gift => gift.1.word gift.2) gifts := by
  induction gifts with
  | nil => exact offers_nil
  | cons gift rest ih =>
      rw [List.forall_mem_cons] at take
      exact (offers_word take.1 gift.2).append (ih take.2)

/-! ## The command -/

theorem cutEquals_dashes {word : String} {rest : List Char}
    (dashes : word.toList = '-' :: '-' :: rest) :
    ∃ more, (cutEquals word).1.toList = '-' :: '-' :: more := by
  rw [cutEquals, dashes, List.span_eq_takeWhile_dropWhile]
  dsimp only
  split
  · exact ⟨rest, dashes⟩
  · exact ⟨rest.takeWhile (· != '='), by simp⟩

/-- Before the command no word can mean several options. -/
theorem length_meanings_program (word : String) : (meanings .program word).length ≤ 1 := by
  have spellings : Level.program.spellings = [("-h", .help), ("--help", .help)] := rfl
  rw [meanings, spellings]
  split
  · rename_i rest dashes
    rcases cutEquals_dashes dashes with ⟨more, start⟩
    have short : (cutEquals word).1.toList.isPrefixOf "-h".toList = false := by
      rw [start]
      rfl
    dsimp only
    rw [List.length_map, List.filter_cons, short]
    exact List.length_filter_le _ _
  · rename_i c _ _ _
    have long : ("--help".toList == ['-', c]) = false := by
      rw [beq_eq_false_iff_ne]
      intro equal
      cases congrArg List.length equal
    rw [List.length_map, List.filter_cons, List.filter_cons, long]
    split <;> simp
  · simp

theorem exists_unspelled_program (word : String) :
    ∃ token, unspelled .program word = .ok token := by
  have few := length_meanings_program word
  rw [unspelled]
  split
  · exact ⟨_, rfl⟩
  · split <;> exact ⟨_, rfl⟩
  · rename_i single none
    match meant : meanings .program word with
    | [] => exact absurd meant none
    | [(_, option, attached)] => exact absurd meant (single _ option attached)
    | _ :: _ :: _ =>
        rw [meant] at few
        simp at few

theorem exists_classify_program (word : String) : ∃ token, classify .program word = .ok token := by
  rw [classify]
  split
  · split
    · exact ⟨_, rfl⟩
    · split
      · split
        · exact ⟨_, rfl⟩
        · exact exists_unspelled_program word
      · exact exists_unspelled_program word
  · exact ⟨_, rfl⟩

theorem classifyAll_program (words : List String) :
    ∃ tokens, classifyAll .program words = .ok tokens ∧ tokens.map Prod.fst = words := by
  induction words with
  | nil => exact ⟨[], rfl, rfl⟩
  | cons word words ih =>
      rw [classifyAll]
      split
      · exact ⟨_, rfl, by simp [Function.comp_def]⟩
      · rcases exists_classify_program word with ⟨token, told⟩
        rcases ih with ⟨tokens, others, same⟩
        rw [told, others]
        exact ⟨_, rfl, by rw [List.map_cons, same]⟩

/-- Everything after the command is read by it. -/
theorem read_provision {words : List String} {arguments : Arguments} :
    read (commandName :: words) = .ok arguments ↔ readCommand words = .ok (arguments, []) := by
  rcases classifyAll_program words with ⟨tokens, told, same⟩
  have command : classifyAll .program (commandName :: words) =
      .ok ((commandName, .argument) :: tokens) := by
    rw [classifyAll, if_neg (by decide), told]
    rfl
  have program : readProgram ((commandName, .argument) :: tokens) =
      (readCommand words).map fun given => (some given.1, given.2) := by
    rw [readProgram.eq_def]
    dsimp only
    rw [if_pos rfl, same]
  rw [read, command]
  dsimp only [bind, Except.bind]
  rw [program]
  cases readCommand words with
  | error stop => simp [Except.map]
  | ok result =>
      rcases result with ⟨given, extras⟩
      cases extras <;> simp [Except.map]

end Toolset.CommandLine
