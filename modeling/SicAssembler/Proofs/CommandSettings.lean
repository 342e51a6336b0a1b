/-
This file proves what the settings of a run are. Items that are spelled by
arguments are known once, at most; with the environment and the defaults they
decide the settings. Arguments are accepted exactly if they spell items that
settings follow from, so whether a run prints, where its output goes and which
options it assembles with can be told from the words and the environment.
-/

import Mathlib.Tactic.MkIffOfInductiveProp
import SicAssembler.Proofs.CommandLine

namespace SicAssembler

/-! ### What is known after items -/

/-- A value is known from the start or read from one text, which must be well-formed; there is at
most one. -/
def KnownOnce {Value : Type} (start? : Option Value) (texts : List String)
    (read? : String → Option Value) (value? : Option Value) : Prop :=
  start?.toList.map some ++ texts.map read? = value?.toList.map some

/-- What is known after some items. -/
@[mk_iff]
structure Arguments.Gathers (start : Arguments) (items : List Item) (known : Arguments) : Prop where
  source : KnownOnce start.source? (Item.sourcesOf items) path? known.source?
  output : KnownOnce start.output? (Item.valuesOf .output items) path? known.output?
  table : KnownOnce start.table? (Item.valuesOf .table items) path? known.table?
  fieldStyle : KnownOnce start.fieldStyle? (Item.valuesOf .fieldStyle items) FieldStyle.ofName?
    known.fieldStyle?
  addressing : KnownOnce start.addressing? (Item.valuesOf .addressing items)
    RecordAddressing.ofName? known.addressing?
  undefinedSymbols : KnownOnce start.undefinedSymbols? (Item.valuesOf .undefinedSymbols items)
    Strictness.ofName? known.undefinedSymbols?
  duplicateLabels : KnownOnce start.duplicateLabels? (Item.valuesOf .duplicateLabels items)
    Strictness.ofName? known.duplicateLabels?
  compatible : start.compatible.toNat + items.count (.flag .compatible) = known.compatible.toNat
  print : start.print.toNat + items.count (.flag .print) = known.print.toNat
  verbosity : start.verbosity + items.count (.flag .verbose) = known.verbosity
  noVersion : .flag .version ∉ items
  noHelp : .flag .help ∉ items

theorem KnownOnce.cons_iff {Value : Type} {start? : Option Value} {text : String}
    {texts : List String} {read? : String → Option Value} {value? : Option Value} :
    KnownOnce start? (text :: texts) read? value? ↔
      start? = none ∧ ∃ value, read? text = some value ∧
        KnownOnce (some value) texts read? value? := by
  unfold KnownOnce
  cases start? with
  | some start => cases value? <;> simp
  | none => cases value? <;> cases found : read? text <;> simp [found, and_comm]

theorem KnownOnce.nil_iff {Value : Type} {start? : Option Value}
    {read? : String → Option Value} {value? : Option Value} :
    KnownOnce start? [] read? value? ↔ start? = value? := by
  unfold KnownOnce
  cases start? <;> cases value? <;> simp

theorem Arguments.once_eq_ok_iff {Value : Type} {known? read? result? : Option Value} :
    once known? read? = .ok result? ↔
      known? = none ∧ ∃ value, read? = some value ∧ result? = some value := by
  cases known? <;> cases read? <;> simp [once, eq_comm]

/-- What is known after some items is known after the first of them, and then the others. -/
theorem Arguments.gathers_cons_iff {start known : Arguments} {item : Item} {rest : List Item} :
    start.Gathers (item :: rest) known ↔
      ∃ next, item.addTo start = .ok next ∧ next.Gathers rest known := by
  -- A flag that was raised cannot be raised again, since its count would be two.
  have atMostOne {raised : Bool} : raised.toNat ≤ 1 := Bool.toNat_le raised
  cases item with
  | source path =>
    simp only [gathers_iff, Item.addTo, takeSource, bind_eq_ok_iff, once_eq_ok_iff, pure,
      Except.pure, Except.ok.injEq, KnownOnce.cons_iff, Item.sourcesOf_source, Item.valuesOf_source,
      List.count_cons, List.mem_cons]
    grind
  | value option text =>
    cases option <;>
      simp only [gathers_iff, Item.addTo, give, bind_eq_ok_iff, once_eq_ok_iff, pure, Except.pure,
        Except.ok.injEq, KnownOnce.cons_iff, Item.sourcesOf_value, Item.valuesOf_value,
        List.count_cons, List.mem_cons, if_true, reduceCtorEq, if_false] <;>
      grind
  | flag flag =>
    cases flag <;>
      simp only [gathers_iff, Item.addTo, raise, Item.sourcesOf_flag, Item.valuesOf_flag,
        List.count_cons, List.mem_cons] <;>
      grind

theorem Arguments.gathers_nil_iff {start known : Arguments} :
    start.Gathers [] known ↔ start = known := by
  have injective (left right : Bool) : left.toNat = right.toNat ↔ left = right := by
    cases left <;> cases right <;> decide
  cases start
  cases known
  simp [gathers_iff, KnownOnce.nil_iff, Item.sourcesOf, Item.valuesOf, injective]

/-- Items can be read one after the other exactly if something is known after them. -/
theorem Arguments.foldlM_addTo_eq_ok_iff {start known : Arguments} {items : List Item} :
    items.foldlM Item.addTo start = .ok known ↔ start.Gathers items known := by
  induction items generalizing start with
  | nil =>
    rw [gathers_nil_iff]
    exact Except.ok.injEq start known ▸ Iff.rfl
  | cons item rest inductionHypothesis =>
    simp only [foldlM_cons_eq_ok_iff, gathers_cons_iff, inductionHypothesis]

/-- What is known from arguments is what is known after the items that they spell. -/
theorem Arguments.read_eq_ok_iff {words : List String} {known : Arguments} :
    read words = .ok known ↔ ∃ items, Spells words items ∧ Gathers {} items known := by
  rw [read, readFrom_eq_ok_iff]
  simp only [foldlM_addTo_eq_ok_iff]

/-! ### Settings -/

/-- How a choice is made: by the text that is given, or else by the environment, or else by
default. -/
inductive Chosen {Value : Type} (texts : List String) (environment : Environment) (name : String)
    (read? : String → Option Value) (absent : Value) : Value → Prop where
  | given {text : String} {value : Value} (single : texts = [text])
      (read : read? text = some value) : Chosen texts environment name read? absent value
  | environment {text : String} {value : Value} (nothing : texts = [])
      (set : environment.get? name = some text) (read : read? text = some value) :
      Chosen texts environment name read? absent value
  | default (nothing : texts = []) (unset : environment.get? name = none) :
      Chosen texts environment name read? absent absent

theorem KnownOnce.none_iff {Value : Type} {texts : List String} {read? : String → Option Value}
    {value? : Option Value} :
    KnownOnce none texts read? value? ↔
      (texts = [] ∧ value? = none) ∨
        ∃ text value, texts = [text] ∧ read? text = some value ∧ value? = some value := by
  cases texts with
  | nil => simp [KnownOnce.nil_iff, eq_comm]
  | cons text rest =>
    rw [KnownOnce.cons_iff]
    cases rest with
    | nil => simp [KnownOnce.nil_iff, eq_comm]
    | cons other rest => simp [KnownOnce.cons_iff]

/-- What is known from texts, and then from the environment, is a choice. -/
theorem exists_choose_iff {Value : Type} {texts : List String} {environment : Environment}
    {name : String} {read? : String → Option Value} {absent value : Value} :
    (∃ given?, KnownOnce none texts read? given? ∧
      Settings.choose given? environment name read? absent = .ok value) ↔
    Chosen texts environment name read? absent value := by
  constructor
  · rintro ⟨given?, known, chose⟩
    rcases KnownOnce.none_iff.mp known with ⟨nothing, rfl⟩ | ⟨text, given, single, read, rfl⟩
    · unfold Settings.choose at chose
      cases set : environment.get? name with
      | none =>
        simp only [set] at chose
        cases chose
        exact .default nothing set
      | some text =>
        simp only [set] at chose
        split at chose
        · next read =>
          cases chose
          exact .environment nothing set read
        · cases chose
    · cases chose
      exact .given single read
  · intro chosen
    cases chosen with
    | given single read =>
      exact ⟨some value, KnownOnce.none_iff.mpr (Or.inr ⟨_, _, single, read, rfl⟩), rfl⟩
    | environment nothing set read =>
      refine ⟨none, KnownOnce.none_iff.mpr (Or.inl ⟨nothing, rfl⟩), ?_⟩
      simp only [Settings.choose, set, read]
    | default nothing unset =>
      refine ⟨none, KnownOnce.none_iff.mpr (Or.inl ⟨nothing, rfl⟩), ?_⟩
      simp only [Settings.choose, unset]

/-- The settings follow from items and an environment. -/
structure Settings.Follows (settings : Settings) (environment : Environment)
    (items : List Item) : Prop where
  /-- There is one source. -/
  source : Item.sourcesOf items = [settings.source] ∧ settings.source ≠ ""
  /-- The base of the output paths is given at most once. -/
  output : KnownOnce none (Item.valuesOf .output items) path? settings.output?
  table : Chosen (Item.valuesOf .table items) environment "SICASM_OPTAB"
    (fun text => (path? text).map some) none settings.table?
  /-- The compatible mode overrides all other choices, and its flag stands for the word `true`. -/
  options : ∃ (choices : Options) (compatible : Bool),
    Chosen (Item.valuesOf .fieldStyle items) environment "SICASM_TOKENIZER" FieldStyle.ofName?
      .columns choices.fieldStyle ∧
    Chosen (Item.valuesOf .addressing items) environment "SICASM_TEXT_ADDRESSING"
      RecordAddressing.ofName? .tracked choices.addressing ∧
    Chosen (Item.valuesOf .undefinedSymbols items) environment "SICASM_UNDEFINED_SYMBOLS"
      Strictness.ofName? .lenient choices.undefinedSymbols ∧
    Chosen (Item.valuesOf .duplicateLabels items) environment "SICASM_DUPLICATE_LABELS"
      Strictness.ofName? .lenient choices.duplicateLabels ∧
    Chosen (List.replicate (items.count (.flag .compatible)) "true") environment "SICASM_COMPAT"
      truth? false compatible ∧
    settings.options = if compatible then .compatible else choices
  /-- The run prints exactly if a flag asks for it, which may be raised once. -/
  print : items.count (.flag .print) = settings.print.toNat
  /-- The level is set by the environment, or else by the number of flags for it. -/
  level : settings.level? = (environment.get? "RUST_LOG").elim
    (some (LogLevel.ofVerbosity (items.count (.flag .verbose)))) LogLevel.ofSetting?
  noVersion : .flag .version ∉ items
  noHelp : .flag .help ∉ items

theorem Settings.ofArguments_eq_ok_iff {known : Arguments} {environment : Environment}
    {settings : Settings} :
    ofArguments known environment = .ok settings ↔
      known.source? = some settings.source ∧ known.output? = settings.output? ∧
      choose (known.table?.map some) environment "SICASM_OPTAB"
        (fun text => (path? text).map some) none = .ok settings.table? ∧
      chooseOptions known environment = .ok settings.options ∧
      known.print = settings.print ∧ chooseLevel known environment = settings.level? := by
  unfold ofArguments
  cases known.source? with
  | none => simp
  | some source =>
    simp only [bind_eq_ok_iff, pure, Except.pure, Except.ok.injEq]
    constructor
    · rintro ⟨table?, table, options, chose, rfl⟩
      exact ⟨rfl, rfl, table, chose, rfl, rfl⟩
    · rintro ⟨sources, output, table, chose, print, level⟩
      refine ⟨_, table, _, chose, ?_⟩
      cases settings
      simp_all

theorem Settings.chooseOptions_eq_ok_iff {known : Arguments} {environment : Environment}
    {options : Options} :
    chooseOptions known environment = .ok options ↔
      ∃ (choices : Options) (compatible : Bool),
        choose known.fieldStyle? environment "SICASM_TOKENIZER" FieldStyle.ofName? .columns =
          .ok choices.fieldStyle ∧
        choose known.addressing? environment "SICASM_TEXT_ADDRESSING" RecordAddressing.ofName?
          .tracked = .ok choices.addressing ∧
        choose known.undefinedSymbols? environment "SICASM_UNDEFINED_SYMBOLS" Strictness.ofName?
          .lenient = .ok choices.undefinedSymbols ∧
        choose known.duplicateLabels? environment "SICASM_DUPLICATE_LABELS" Strictness.ofName?
          .lenient = .ok choices.duplicateLabels ∧
        choose (if known.compatible then some true else none) environment "SICASM_COMPAT" truth?
          false = .ok compatible ∧
        options = if compatible then .compatible else choices := by
  unfold chooseOptions
  simp only [bind_eq_ok_iff, pure, Except.pure, Except.ok.injEq]
  constructor
  · rintro ⟨fieldStyle, first, addressing, second, undefinedSymbols, third, duplicateLabels, fourth,
      compatible, fifth, rfl⟩
    exact ⟨⟨fieldStyle, addressing, undefinedSymbols, duplicateLabels⟩, compatible, first, second,
      third, fourth, fifth, rfl⟩
  · rintro ⟨choices, compatible, first, second, third, fourth, fifth, rfl⟩
    exact ⟨_, first, _, second, _, third, _, fourth, _, fifth, rfl⟩

theorem Settings.chooseLevel_eq_elim (known : Arguments) (environment : Environment) :
    chooseLevel known environment = (environment.get? "RUST_LOG").elim
      (some (LogLevel.ofVerbosity known.verbosity)) LogLevel.ofSetting? := by
  unfold chooseLevel
  cases environment.get? "RUST_LOG" with
  | none => rfl
  | some text => rw [Option.elim_some]

theorem path?_eq_some_iff {text path : String} :
    path? text = some path ↔ text ≠ "" ∧ text = path := by
  unfold path?
  split <;> simp_all

/-- Sources that are known once are one source. -/
theorem knownOnce_source_iff {texts : List String} {source : String} :
    KnownOnce none texts path? (some source) ↔ texts = [source] ∧ source ≠ "" := by
  rw [KnownOnce.none_iff]
  simp only [path?_eq_some_iff, reduceCtorEq, and_false, false_or, Option.some.injEq]
  constructor
  · rintro ⟨text, value, rfl, ⟨nonempty, rfl⟩, rfl⟩
    exact ⟨rfl, nonempty⟩
  · rintro ⟨rfl, nonempty⟩
    exact ⟨source, source, rfl, ⟨nonempty, rfl⟩, rfl⟩

theorem knownOnce_map_some_iff {Value : Type} {texts : List String}
    {read? : String → Option Value} {given? : Option (Option Value)} :
    KnownOnce none texts (fun text => (read? text).map some) given? ↔
      ∃ value?, given? = value?.map some ∧ KnownOnce none texts read? value? := by
  simp only [KnownOnce.none_iff, Option.map_eq_some_iff]
  constructor
  · rintro (⟨nothing, rfl⟩ | ⟨text, value, single, ⟨inner, read, rfl⟩, rfl⟩)
    · exact ⟨none, rfl, Or.inl ⟨nothing, rfl⟩⟩
    · exact ⟨some inner, rfl, Or.inr ⟨text, inner, single, read, rfl⟩⟩
  · rintro ⟨value?, rfl, ⟨nothing, rfl⟩ | ⟨text, value, single, read, rfl⟩⟩
    · exact Or.inl ⟨nothing, rfl⟩
    · exact Or.inr ⟨text, some value, single, ⟨value, read, rfl⟩, rfl⟩

/-- A flag that is raised once stands for the word `true`. -/
theorem knownOnce_replicate_iff {count : Nat} {given? : Option Bool} :
    KnownOnce none (List.replicate count "true") Settings.truth? given? ↔
      ∃ raised : Bool, count = raised.toNat ∧ given? = if raised then some true else none := by
  rw [KnownOnce.none_iff]
  match count with
  | 0 => simp [Bool.exists_bool]
  | 1 => simp [Bool.exists_bool, Settings.truth?]
  | more + 2 => simp [Bool.exists_bool, List.replicate_succ]

/-- Arguments are accepted exactly if they spell items that settings follow from. -/
theorem Session.settings_eq_ok_iff {environment : Environment} {words : List String}
    {settings : Settings} :
    Session.settings environment words = .ok settings ↔
      ∃ items, Spells words items ∧ settings.Follows environment items := by
  simp only [Session.settings, bind_eq_ok_iff, Arguments.read_eq_ok_iff,
    Settings.ofArguments_eq_ok_iff, Settings.chooseOptions_eq_ok_iff]
  constructor
  · rintro ⟨known, ⟨items, spells, gathers⟩, source, output, table,
      ⟨choices, compatible, style, addressing, undefined, duplicate, mode, options⟩, print, level⟩
    refine ⟨items, spells, ?_⟩
    constructor
    case source => exact knownOnce_source_iff.mp (source ▸ gathers.source)
    case output => exact output ▸ gathers.output
    case table =>
      exact exists_choose_iff.mp
        ⟨_, knownOnce_map_some_iff.mpr ⟨known.table?, rfl, gathers.table⟩, table⟩
    case options =>
      have raised := gathers.compatible
      rw [Bool.toNat_false, Nat.zero_add] at raised
      exact ⟨choices, compatible, exists_choose_iff.mp ⟨_, gathers.fieldStyle, style⟩,
        exists_choose_iff.mp ⟨_, gathers.addressing, addressing⟩,
        exists_choose_iff.mp ⟨_, gathers.undefinedSymbols, undefined⟩,
        exists_choose_iff.mp ⟨_, gathers.duplicateLabels, duplicate⟩,
        exists_choose_iff.mp ⟨_, knownOnce_replicate_iff.mpr ⟨_, raised, rfl⟩, mode⟩, options⟩
    case print => rw [← print, ← gathers.print, Bool.toNat_false, Nat.zero_add]
    case level => rw [← level, Settings.chooseLevel_eq_elim, ← gathers.verbosity, Nat.zero_add]
    case noVersion => exact gathers.noVersion
    case noHelp => exact gathers.noHelp
  · rintro ⟨items, spells, follows⟩
    obtain ⟨choices, compatible, style, addressing, undefined, duplicate, mode, options⟩ :=
      follows.options
    obtain ⟨given?, knowsGiven, table⟩ := exists_choose_iff.mpr follows.table
    obtain ⟨table?, rfl, knowsTable⟩ := knownOnce_map_some_iff.mp knowsGiven
    obtain ⟨style?, knowsStyle, style⟩ := exists_choose_iff.mpr style
    obtain ⟨addressing?, knowsAddressing, addressing⟩ := exists_choose_iff.mpr addressing
    obtain ⟨undefined?, knowsUndefined, undefined⟩ := exists_choose_iff.mpr undefined
    obtain ⟨duplicate?, knowsDuplicate, duplicate⟩ := exists_choose_iff.mpr duplicate
    obtain ⟨mode?, knowsMode, mode⟩ := exists_choose_iff.mpr mode
    obtain ⟨raised, count, rfl⟩ := knownOnce_replicate_iff.mp knowsMode
    refine ⟨⟨some settings.source, settings.output?, table?, style?, addressing?, undefined?,
      duplicate?, raised, settings.print, items.count (.flag .verbose)⟩, ⟨items, spells, ?_⟩,
      rfl, rfl, table, ⟨choices, compatible, style, addressing, undefined, duplicate, mode,
        options⟩, rfl, (Settings.chooseLevel_eq_elim _ _).trans follows.level.symm⟩
    constructor
    case source => exact knownOnce_source_iff.mpr follows.source
    case output => exact follows.output
    case table => exact knowsTable
    case fieldStyle => exact knowsStyle
    case addressing => exact knowsAddressing
    case undefinedSymbols => exact knowsUndefined
    case duplicateLabels => exact knowsDuplicate
    case compatible => rw [Bool.toNat_false, Nat.zero_add, count]
    case print => rw [Bool.toNat_false, Nat.zero_add, follows.print]
    case verbosity => rw [Nat.zero_add]
    case noVersion => exact follows.noVersion
    case noHelp => exact follows.noHelp

end SicAssembler
