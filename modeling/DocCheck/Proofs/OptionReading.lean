import DocCheck.CommandLine.Options
import Mathlib.Data.List.Forall2
import Mathlib.Data.List.Induction

/-!
# Reading options

The option `--filter` takes the argument behind it, so whether an argument is
an option depends on all arguments before it.  Cut into options, a list of
arguments is read option by option: every option makes one choice, a later
choice overrides an earlier one of its kind, and choices of different kinds
do not affect each other.
-/

namespace DocCheck

/-! ## Choices and their spelling -/

/-- What can be chosen with options. -/
inductive OptionKind where
  | verbosity
  | filter
  | colors
deriving DecidableEq, Repr

/-- What a single option chooses. -/
inductive Choice where
  | verbose
  | filter (text : String)
  | colors (mode : ColorChoice)
deriving DecidableEq, Repr

namespace Choice

def kind : Choice → OptionKind
  | verbose => .verbosity
  | filter _ => .filter
  | colors _ => .colors

def filter? : Choice → Option String
  | filter text => some text
  | _ => none

def colors? : Choice → Option ColorChoice
  | colors mode => some mode
  | _ => none

/-- The arguments that make a choice. -/
inductive Spelled : Choice → List String → Prop
  | verbose : Spelled verbose ["--verbose"]
  | short : Spelled verbose ["-v"]
  | filter (text : String) : Spelled (filter text) ["--filter", text]
  | joined (text : String) : Spelled (filter text) ["--filter=" ++ text]
  | auto : Spelled (colors .auto) ["--color=auto"]
  | always : Spelled (colors .always) ["--color=always"]
  | never : Spelled (colors .never) ["--color=never"]

end Choice

/-- The arguments cut into options.  A last `--filter` without a text is left
alone. -/
def optionsOf : List String → List (List String)
  | "--filter" :: text :: rest => ["--filter", text] :: optionsOf rest
  | word :: rest => [word] :: optionsOf rest
  | [] => []

/-- Induction along the options of a list of arguments. -/
@[elab_as_elim]
theorem argumentsInduction {motive : List String → Prop}
    (nil : motive [])
    (unfinished : motive ["--filter"])
    (filter : ∀ text rest, motive rest →
      motive ("--filter" :: text :: rest))
    (other : ∀ word rest, word ≠ "--filter" → motive rest →
      motive (word :: rest))
    (arguments : List String) : motive arguments := by
  induction arguments using optionsOf.induct with
  | case1 text rest inductionHypothesis =>
      exact filter text rest inductionHypothesis
  | case2 word rest noText inductionHypothesis =>
      by_cases isFilter : word = "--filter"
      · cases rest with
        | nil => exact isFilter ▸ unfinished
        | cons text others => exact (noText text others isFilter rfl).elim
      · exact other word rest isFilter inductionHypothesis
  | case3 => exact nil

theorem optionsOf_cons_of_ne {word : String} (other : word ≠ "--filter")
    (rest : List String) :
    optionsOf (word :: rest) = [word] :: optionsOf rest := by
  rw [optionsOf]
  intro text others isFilter
  exact absurd isFilter other

theorem flatten_optionsOf (arguments : List String) :
    (optionsOf arguments).flatten = arguments := by
  induction arguments using argumentsInduction with
  | nil => rfl
  | unfinished => rfl
  | filter text rest inductionHypothesis =>
      rw [optionsOf, List.flatten_cons, inductionHypothesis]
      rfl
  | other word rest other inductionHypothesis =>
      rw [optionsOf_cons_of_ne other, List.flatten_cons,
        inductionHypothesis]
      rfl

/-- An option takes the next argument or none, and only the last one can be
a `--filter` without a text. -/
theorem shape_of_mem_optionsOf {arguments option : List String}
    (member : option ∈ optionsOf arguments) :
    (∃ text, option = ["--filter", text]) ∨
    (∃ word, option = [word] ∧ word ≠ "--filter") ∨
    option = ["--filter"] ∧
      (optionsOf arguments).getLast? = some ["--filter"] := by
  have carried {first : List String} {others : List (List String)}
      (last : others.getLast? = some ["--filter"]) :
      (first :: others).getLast? = some ["--filter"] := by
    rw [List.getLast?_cons, last]
    rfl
  induction arguments using argumentsInduction with
  | nil => cases member
  | unfinished => exact .inr (.inr ⟨List.mem_singleton.mp member, rfl⟩)
  | filter text rest inductionHypothesis =>
      rw [optionsOf] at member ⊢
      rcases List.mem_cons.mp member with rfl | behind
      · exact .inl ⟨text, rfl⟩
      · exact (inductionHypothesis behind).imp_right
          (.imp_right fun given => ⟨given.1, carried given.2⟩)
  | other word rest other inductionHypothesis =>
      rw [optionsOf_cons_of_ne other] at member ⊢
      rcases List.mem_cons.mp member with rfl | behind
      · exact .inr (.inl ⟨word, rfl, other⟩)
      · exact (inductionHypothesis behind).imp_right
          (.imp_right fun given => ⟨given.1, carried given.2⟩)

/-- Whether an option begins behind the arguments: no `--filter` among them
waits for its text. -/
def AtOption (arguments : List String) : Prop :=
  ["--filter"] ∉ optionsOf arguments

instance (arguments : List String) : Decidable (AtOption arguments) :=
  inferInstanceAs (Decidable (_ ∉ _))

namespace Options

/-! ## One option -/

/-- The options after one more choice. -/
def choose (options : Options) : Choice → Options
  | .verbose => options.withVerbose
  | .filter text => options.withFilter text
  | .colors mode => options.withColors mode

/-- Choices of different kinds may be made in either order. -/
theorem choose_comm {first second : Choice}
    (different : first.kind ≠ second.kind) (options : Options) :
    (options.choose first).choose second =
      (options.choose second).choose first := by
  cases first <;> cases second <;>
    first | rfl | exact absurd rfl different

theorem filterText?_eq_some_iff {argument text : String} :
    filterText? argument = some text ↔ argument = "--filter=" ++ text := by
  rw [filterText?, Option.map_eq_some_iff]
  simp only [List.isPrefixOf?_eq_some_iff_append_eq]
  constructor
  · rintro ⟨rest, split, rfl⟩
    apply String.toList_injective
    rw [← split, String.toList_append, @String.toList_ofList rest]
  · rintro rfl
    exact ⟨text.toList, String.toList_append.symm, String.ofList_toList⟩

theorem request?_joined (text : String) :
    request? ("--filter=" ++ text) = some (.filter text) := by
  have joined := filterText?_eq_some_iff.mpr
    (Eq.refl ("--filter=" ++ text))
  have other {word : String} (fixed : filterText? word = none) :
      "--filter=" ++ text ≠ word := by
    rintro rfl
    rw [joined] at fixed
    cases fixed
  unfold request?
  split
  case h_7 =>
    rw [joined]
    rfl
  all_goals next same => exact (other (by decide) same).elim

theorem request?_eq_none {word : String} (other : word ≠ "--filter")
    (unspelled : ∀ choice, ¬ Choice.Spelled choice [word]) :
    request? word = none := by
  unfold request?
  split
  · exact absurd .verbose (unspelled _)
  · exact absurd .short (unspelled _)
  · exact absurd rfl other
  · exact absurd .auto (unspelled _)
  · exact absurd .always (unspelled _)
  · exact absurd .never (unspelled _)
  · rw [Option.map_eq_none_iff, Option.eq_none_iff_forall_ne_some]
    intro text joined
    obtain rfl := filterText?_eq_some_iff.mp joined
    exact unspelled _ (.joined text)

theorem readOnto_of_unknown {word : String} (unknown : request? word = none)
    (options : Options) (rest : List String) :
    options.readOnto (word :: rest) = .error (.unknown word) := by
  rw [readOnto.eq_def]
  simp only [unknown]

/-- An option adds its choice, and reading goes on behind it. -/
theorem readOnto_of_spelled {choice : Choice} {option : List String}
    (spelled : choice.Spelled option) (options : Options)
    (rest : List String) :
    options.readOnto (option ++ rest) =
      (options.choose choice).readOnto rest := by
  cases spelled with
  | joined text =>
      rw [List.singleton_append, readOnto.eq_def]
      simp only [request?_joined]
      rfl
  | _ => rfl

/-- Any other argument in the place of an option makes a choice, or it is
reported. -/
theorem readOnto_cons_cases {word : String} (other : word ≠ "--filter") :
    (∃ choice, Choice.Spelled choice [word] ∧
      ∀ (options : Options) (rest : List String),
        options.readOnto (word :: rest) =
          (options.choose choice).readOnto rest) ∨
    (∀ choice, ¬ Choice.Spelled choice [word]) ∧
      ∀ (options : Options) (rest : List String),
        options.readOnto (word :: rest) = .error (.unknown word) := by
  by_cases known : ∃ choice, Choice.Spelled choice [word]
  · obtain ⟨choice, spelled⟩ := known
    exact .inl ⟨choice, spelled, readOnto_of_spelled spelled⟩
  · rw [not_exists] at known
    exact .inr ⟨known, readOnto_of_unknown (request?_eq_none other known)⟩

theorem not_spelled_filter (choice : Choice) :
    ¬ choice.Spelled ["--filter"] := by
  intro spelled
  have read := readOnto_of_spelled spelled {} []
  cases read

/-! ## All options -/

/-- Options that all make choices are read to the end, and the choices are
made from left to right. -/
theorem readOnto_flatten {choices : List Choice}
    {spellings : List (List String)}
    (spelled : List.Forall₂ Choice.Spelled choices spellings)
    (options : Options) :
    options.readOnto spellings.flatten =
      .ok (choices.foldl choose options) := by
  induction spelled generalizing options with
  | nil => rfl
  | cons first others inductionHypothesis =>
      rw [List.flatten_cons, readOnto_of_spelled first, inductionHypothesis,
        List.foldl_cons]

theorem readOnto_of_unspelled {arguments option : List String}
    (member : option ∈ optionsOf arguments)
    (unspelled : ∀ choice, ¬ Choice.Spelled choice option)
    (options : Options) :
    ∃ error, options.readOnto arguments = .error error := by
  induction arguments using argumentsInduction generalizing options with
  | nil => cases member
  | unfinished => exact ⟨.missingFilter, rfl⟩
  | filter text rest inductionHypothesis =>
      rw [optionsOf] at member
      rcases List.mem_cons.mp member with rfl | behind
      · exact absurd (.filter text) (unspelled _)
      · exact inductionHypothesis behind _
  | other word rest other inductionHypothesis =>
      rcases readOnto_cons_cases other with
        ⟨choice, spelled, next⟩ | ⟨-, failed⟩
      · rw [optionsOf_cons_of_ne other] at member
        rcases List.mem_cons.mp member with rfl | behind
        · exact absurd spelled (unspelled _)
        · rw [next]
          exact inductionHypothesis behind _
      · exact ⟨_, failed options rest⟩

/-- Reading goes on where it stopped, as long as it stopped in front of an
option. -/
theorem readOnto_append {before : List String} (atOption : AtOption before)
    (after : List String) (options : Options) :
    options.readOnto (before ++ after) =
      options.readOnto before >>= fun reached => reached.readOnto after := by
  induction before using argumentsInduction generalizing options with
  | nil => rfl
  | unfinished => exact absurd (List.mem_singleton_self _) atOption
  | filter text rest inductionHypothesis =>
      have behind : AtOption rest := fun member =>
        atOption (List.mem_cons_of_mem _ member)
      exact inductionHypothesis behind _
  | other word rest other inductionHypothesis =>
      have behind : AtOption rest := by
        rw [AtOption, optionsOf_cons_of_ne other, List.mem_cons,
          not_or] at atOption
        exact atOption.2
      rcases readOnto_cons_cases other with ⟨choice, -, next⟩ | ⟨-, failed⟩
      · rw [List.cons_append, next, next]
        exact inductionHypothesis behind _
      · rw [List.cons_append, failed, failed]
        rfl

/-! ## What was chosen -/

/-- Options that are what was chosen last, and the defaults where nothing was
chosen. -/
structure Follows (options : Options) (choices : List Choice) : Prop where
  verbose : options.settings.verbose = true ↔ .verbose ∈ choices
  filter :
    options.settings.filter = (choices.filterMap Choice.filter?).getLast?
  colors :
    options.colors =
      (choices.filterMap Choice.colors?).getLast?.getD .auto
  defaultTag : options.settings.defaultTag = Tag.string

theorem Follows.choose {options : Options} {choices : List Choice}
    (follows : options.Follows choices) (choice : Choice) :
    (options.choose choice).Follows (choices ++ [choice]) := by
  obtain ⟨verbose, filter, colors, defaultTag⟩ := follows
  cases choice with
  | verbose =>
      constructor <;>
        simp [Options.choose, withVerbose, Choice.filter?, Choice.colors?,
          filter, colors, defaultTag]
  | filter text =>
      constructor <;>
        simp [Options.choose, withFilter, Choice.filter?, Choice.colors?,
          verbose, colors, defaultTag]
  | colors mode =>
      constructor <;>
        simp [Options.choose, withColors, Choice.filter?, Choice.colors?,
          verbose, filter, defaultTag]

theorem follows_foldl_choose (choices : List Choice) :
    (choices.foldl Options.choose {}).Follows choices := by
  induction choices using List.reverseRecOn with
  | nil => constructor <;> simp
  | append_singleton choices choice inductionHypothesis =>
      rw [List.foldl_concat]
      exact inductionHypothesis.choose choice

/-- Reading gives options unless some option makes no choice. -/
theorem readOnto_cases (arguments : List String) (options : Options) :
    (∃ choices,
      List.Forall₂ Choice.Spelled choices (optionsOf arguments) ∧
      options.readOnto arguments = .ok (choices.foldl choose options)) ∨
    (∃ option ∈ optionsOf arguments,
      ∀ choice, ¬ Choice.Spelled choice option) ∧
      ∃ error, options.readOnto arguments = .error error := by
  by_cases known : ∀ option ∈ optionsOf arguments,
      ∃ choice, Choice.Spelled choice option
  · have : Nonempty Choice := ⟨.verbose⟩
    choose! choiceOf spelled using known
    have all : List.Forall₂ Choice.Spelled
        ((optionsOf arguments).map choiceOf) (optionsOf arguments) :=
      List.forall₂_map_left_iff.mpr (List.forall₂_same.mpr spelled)
    have read := readOnto_flatten all options
    rw [flatten_optionsOf] at read
    exact .inl ⟨_, all, read⟩
  · simp only [not_forall, not_exists] at known
    obtain ⟨option, member, unspelled⟩ := known
    exact .inr ⟨⟨option, member, unspelled⟩,
      readOnto_of_unspelled member unspelled options⟩

end Options

/-- Options are read unless an argument in the place of an option is none, or
a last `--filter` has no text.  The result is what was chosen last.  In the
place of an option a filter may be spelled in one word or in two, and
options of different kinds may change places. -/
theorem options_combine :
    (∀ arguments : List String,
      ((∃ error, Options.read arguments = .error error) ↔
        (∃ word, [word] ∈ optionsOf arguments ∧ word ≠ "--filter" ∧
          ∀ choice, ¬ Choice.Spelled choice [word]) ∨
        (optionsOf arguments).getLast? = some ["--filter"]) ∧
      ∀ options, Options.read arguments = .ok options →
        ∃ choices,
          List.Forall₂ Choice.Spelled choices (optionsOf arguments) ∧
          options.Follows choices) ∧
    (∀ (before after : List String) (text : String), AtOption before →
      Options.read (before ++ "--filter" :: text :: after) =
        Options.read (before ++ ("--filter=" ++ text) :: after)) ∧
    ∀ (before first second after : List String) (choice other : Choice),
      AtOption before → choice.Spelled first → other.Spelled second →
      choice.kind ≠ other.kind →
      Options.read (before ++ first ++ second ++ after) =
        Options.read (before ++ second ++ first ++ after) := by
  refine ⟨fun arguments => ⟨⟨?_, ?_⟩, ?_⟩, ?_, ?_⟩
  · rintro ⟨error, failed⟩
    rcases Options.readOnto_cases arguments {} with
      ⟨choices, -, read⟩ | ⟨⟨option, member, unspelled⟩, -⟩
    · cases failed.symm.trans read
    · rcases shape_of_mem_optionsOf member with
        ⟨text, rfl⟩ | ⟨word, rfl, other⟩ | ⟨-, last⟩
      · exact absurd (.filter text) (unspelled _)
      · exact .inl ⟨word, member, other, unspelled⟩
      · exact .inr last
  · rintro (⟨word, member, -, unspelled⟩ | last)
    · exact Options.readOnto_of_unspelled member unspelled {}
    · exact Options.readOnto_of_unspelled (List.mem_of_getLast? last)
        Options.not_spelled_filter {}
  · intro options succeeded
    rcases Options.readOnto_cases arguments {} with
      ⟨choices, spelled, read⟩ | ⟨-, error, failed⟩
    · cases succeeded.symm.trans read
      exact ⟨choices, spelled, Options.follows_foldl_choose choices⟩
    · cases succeeded.symm.trans failed
  · intro before after text atOption
    have inTwoWords := Options.readOnto_of_spelled (.filter text)
    have inOneWord := Options.readOnto_of_spelled (.joined text)
    rw [Options.read, Options.read, Options.readOnto_append atOption,
      Options.readOnto_append atOption]
    exact congrArg _ (funext fun reached =>
      (inTwoWords reached after).trans (inOneWord reached after).symm)
  · intro before first second after choice other atOption spelledFirst
      spelledSecond different
    simp only [List.append_assoc, Options.read,
      Options.readOnto_append atOption,
      Options.readOnto_of_spelled spelledFirst,
      Options.readOnto_of_spelled spelledSecond,
      Options.choose_comm different]

/-- A colour option as the text of a filter, before an option that may change
places with a second filter. -/
theorem filter_takes_an_option_as_its_text :
    let before := ["--filter", "--color=always"]
    let expected : Options :=
      { settings := { filter := some "--color=always", verbose := true } }
    AtOption before ∧
    (∃ error, Options.read (before ++ ["--filter"]) = .error error) ∧
    (∃ choices,
      List.Forall₂ Choice.Spelled choices (optionsOf (before ++ ["-v"])) ∧
      expected.Follows choices) ∧
    Options.read (before ++ ["--filter", "-v"]) =
      Options.read (before ++ ["--filter=-v"]) ∧
    Options.read (before ++ ["-v"] ++ ["--filter", "-v"] ++ []) =
      Options.read (before ++ ["--filter", "-v"] ++ ["-v"] ++ []) := by
  intro before expected
  obtain ⟨whole, oneWord, changePlaces⟩ := options_combine
  have atOption : AtOption before := by decide
  have dangling : (optionsOf (before ++ ["--filter"])).getLast? =
      some ["--filter"] := rfl
  have read : Options.read (before ++ ["-v"]) = .ok expected := rfl
  exact ⟨atOption, (whole _).1.mpr (.inr dangling), (whole _).2 _ read,
    oneWord before [] "-v" atOption,
    changePlaces before ["-v"] ["--filter", "-v"] [] .verbose
      (.filter "-v") atOption .short (.filter "-v") (by decide)⟩

end DocCheck
