/-
This file proves how the arguments of the command are read. A grammar says how
words spell items: an option with its value, a flag or a source. Reading the
words is adding what these items say, one after the other, to what is known. So
an item counts the same however it is spelled, and words that spell no items are
refused.
-/

import SicAssembler.Command.Session
import SicAssembler.Proofs.Statement

namespace SicAssembler

/-! ### Items -/

/-- What arguments are made of. -/
inductive Item where
  | value (option : ValueOption) (text : String)
  | flag (flag : Flag)
  | source (path : String)
deriving DecidableEq, Repr

namespace Item

/-- Add what an item says to what is known. -/
def addTo (known : Arguments) : Item → Except Interruption Arguments
  | .value option text => known.give option text
  | .flag raised => known.raise raised
  | .source path => known.takeSource path

/-- The values that items give to an option. -/
def valuesOf (option : ValueOption) (items : List Item) : List String :=
  items.filterMap fun item =>
    match item with
    | .value other text => if other = option then some text else none
    | _ => none

/-- The sources among items. -/
def sourcesOf (items : List Item) : List String :=
  items.filterMap fun item =>
    match item with
    | .source path => some path
    | _ => none

@[simp]
theorem valuesOf_value (option other : ValueOption) (text : String) (rest : List Item) :
    valuesOf option (.value other text :: rest) =
      if other = option then text :: valuesOf option rest else valuesOf option rest := by
  unfold valuesOf
  by_cases same : other = option <;> simp [same]

@[simp]
theorem valuesOf_flag (option : ValueOption) (raised : Flag) (rest : List Item) :
    valuesOf option (.flag raised :: rest) = valuesOf option rest := rfl

@[simp]
theorem valuesOf_source (option : ValueOption) (path : String) (rest : List Item) :
    valuesOf option (.source path :: rest) = valuesOf option rest := rfl

@[simp]
theorem sourcesOf_value (option : ValueOption) (text : String) (rest : List Item) :
    sourcesOf (.value option text :: rest) = sourcesOf rest := rfl

@[simp]
theorem sourcesOf_flag (raised : Flag) (rest : List Item) :
    sourcesOf (.flag raised :: rest) = sourcesOf rest := rfl

@[simp]
theorem sourcesOf_source (path : String) (rest : List Item) :
    sourcesOf (.source path :: rest) = path :: sourcesOf rest := rfl

end Item

/-! ### The grammar of arguments -/

/-- The text behind the letter of an option that takes a value: nothing, so that the option waits
for its value, or the value, perhaps behind an equals sign. -/
inductive SpellsValue (option : ValueOption) :
    List Char → List Item → Option ValueOption → Prop where
  | waiting : SpellsValue option [] [] (some option)
  | equals (value : List Char) :
      SpellsValue option ('=' :: value) [.value option (String.ofList value)] none
  | attached {value : List Char} (nonempty : value ≠ []) (plain : value.head? ≠ some '=') :
      SpellsValue option value [.value option (String.ofList value)] none

/-- The letters behind one dash: flags, and perhaps an option at the end that takes a value. -/
inductive SpellsLetters : List Char → List Item → Option ValueOption → Prop where
  | nothing : SpellsLetters [] [] none
  | flag {letter : Char} {flag : Flag} {rest : List Char} {items : List Item}
      {waiting? : Option ValueOption}
      (named : CommandOption.ofShortName? letter = some (.flag flag))
      (later : SpellsLetters rest items waiting?) :
      SpellsLetters (letter :: rest) (.flag flag :: items) waiting?
  | value {letter : Char} {option : ValueOption} {rest : List Char} {items : List Item}
      {waiting? : Option ValueOption}
      (named : CommandOption.ofShortName? letter = some (.value option))
      (spells : SpellsValue option rest items waiting?) :
      SpellsLetters (letter :: rest) items waiting?

/-- The text behind two dashes: a flag, or an option with its value or waiting for one. -/
inductive SpellsName : List Char → List Item → Option ValueOption → Prop where
  | flag {name : List Char} {flag : Flag} (plain : '=' ∉ name)
      (named : CommandOption.ofLongName? (String.ofList name) = some (.flag flag)) :
      SpellsName name [.flag flag] none
  | waiting {name : List Char} {option : ValueOption} (plain : '=' ∉ name)
      (named : CommandOption.ofLongName? (String.ofList name) = some (.value option)) :
      SpellsName name [] (some option)
  | equals {name : List Char} {option : ValueOption} (value : List Char) (plain : '=' ∉ name)
      (named : CommandOption.ofLongName? (String.ofList name) = some (.value option)) :
      SpellsName (name ++ '=' :: value) [.value option (String.ofList value)] none

/-- A word that is no option: it does not start with a dash, or is one. -/
def IsPlain (word : String) : Prop := word = "-" ∨ word.toList.head? ≠ some '-'

/-- One word that is not two dashes alone. -/
inductive SpellsWord : String → List Item → Option ValueOption → Prop where
  | name {word : String} {text : List Char} {items : List Item} {waiting? : Option ValueOption}
      (dashes : word.toList = '-' :: '-' :: text) (spells : SpellsName text items waiting?) :
      SpellsWord word items waiting?
  | letters {word : String} {text : List Char} {items : List Item}
      {waiting? : Option ValueOption} (dash : word.toList = '-' :: text) (nonempty : text ≠ [])
      (single : text.head? ≠ some '-') (spells : SpellsLetters text items waiting?) :
      SpellsWord word items waiting?
  | source {word : String} (plain : IsPlain word) :
      SpellsWord word [.source word] none

/-- All words. A word that can be a value follows an option that waits for one, and behind two
dashes alone there are sources only. -/
inductive Spells : List String → List Item → Prop where
  | nothing : Spells [] []
  | word {word : String} {rest : List String} {items later : List Item} (proper : word ≠ "--")
      (spells : SpellsWord word items none) (others : Spells rest later) :
      Spells (word :: rest) (items ++ later)
  | pair {word value : String} {rest : List String} {items later : List Item}
      {option : ValueOption} (proper : word ≠ "--")
      (spells : SpellsWord word items (some option))
      (plain : IsPlain value) (others : Spells rest later) :
      Spells (word :: value :: rest) (items ++ .value option value :: later)
  | sources (paths : List String) : Spells ("--" :: paths) (paths.map .source)

/-! ### Letters -/

section Letters

variable {letter : Char} {rest : List Char} {items : List Item} {waiting? : Option ValueOption}

theorem SpellsLetters.ne_none (spells : SpellsLetters (letter :: rest) items waiting?) :
    CommandOption.ofShortName? letter ≠ none := by
  cases spells with
  | flag named => simp [named]
  | value named => simp [named]

theorem spellsLetters_flag_iff {flag : Flag}
    (named : CommandOption.ofShortName? letter = some (.flag flag)) :
    SpellsLetters (letter :: rest) items waiting? ↔
      ∃ later, items = .flag flag :: later ∧ SpellsLetters rest later waiting? := by
  constructor
  · intro spells
    cases spells with
    | flag other later =>
      cases named.symm.trans other
      exact ⟨_, rfl, later⟩
    | value other => cases named.symm.trans other
  · rintro ⟨later, rfl, spells⟩
    exact .flag named spells

theorem spellsLetters_value_iff {option : ValueOption}
    (named : CommandOption.ofShortName? letter = some (.value option)) :
    SpellsLetters (letter :: rest) items waiting? ↔
      SpellsValue option rest items waiting? := by
  refine ⟨fun spells => ?_, .value named⟩
  cases spells with
  | flag other => cases named.symm.trans other
  | value other spells =>
    cases named.symm.trans other
    exact spells

end Letters

/-! ### Reading words -/

namespace Arguments

variable {known next result : Arguments} {waiting? : Option ValueOption}

/-- A reading of items continues behind the first of them. -/
theorem foldlM_cons_eq_ok_iff {item : Item} {rest : List Item} :
    (item :: rest).foldlM Item.addTo known = .ok result ↔
      ∃ next, item.addTo known = .ok next ∧ rest.foldlM Item.addTo next = .ok result := by
  rw [List.foldlM_cons, bind_eq_ok_iff]

theorem foldlM_singleton_eq_ok_iff {item : Item} :
    [item].foldlM Item.addTo known = .ok result ↔ item.addTo known = .ok result := by
  rw [foldlM_cons_eq_ok_iff]
  simp [pure, Except.pure]

theorem foldlM_append_eq_ok_iff {items later : List Item} :
    (items ++ later).foldlM Item.addTo known = .ok result ↔
      ∃ next, items.foldlM Item.addTo known = .ok next ∧
        later.foldlM Item.addTo next = .ok result := by
  rw [List.foldlM_append, bind_eq_ok_iff]

/-- A step that ends with one item added. -/
theorem addTo_step_eq_ok_iff (item : Item) :
    (do return (← item.addTo known, none) : Step) = .ok (next, waiting?) ↔
      waiting? = none ∧ [item].foldlM Item.addTo known = .ok next := by
  rw [foldlM_singleton_eq_ok_iff, bind_eq_ok_iff]
  constructor
  · rintro ⟨added, adds, same⟩
    cases same
    exact ⟨rfl, adds⟩
  · rintro ⟨rfl, adds⟩
    exact ⟨next, adds, rfl⟩

theorem readShort_eq_ok_iff {text : List Char} :
    known.readShort text = .ok (next, waiting?) ↔
      ∃ items, SpellsLetters text items waiting? ∧ items.foldlM Item.addTo known = .ok next := by
  induction text generalizing known with
  | nil =>
    constructor
    · intro read
      cases read
      exact ⟨[], .nothing, rfl⟩
    · rintro ⟨items, spells, added⟩
      cases spells
      cases added
      rfl
  | cons letter rest inductionHypothesis =>
    rw [readShort]
    cases named : CommandOption.ofShortName? letter with
    | none => simpa using fun items spells => absurd named (SpellsLetters.ne_none spells)
    | some option =>
      cases option with
      | flag flag =>
        simp only [bind_eq_ok_iff, inductionHypothesis, spellsLetters_flag_iff named]
        constructor
        · rintro ⟨raised, raises, items, spells, added⟩
          exact ⟨_, ⟨items, rfl, spells⟩, foldlM_cons_eq_ok_iff.mpr ⟨raised, raises, added⟩⟩
        · rintro ⟨_, ⟨items, rfl, spells⟩, added⟩
          obtain ⟨raised, raises, later⟩ := foldlM_cons_eq_ok_iff.mp added
          exact ⟨raised, raises, items, spells, later⟩
      | value option =>
        simp only [spellsLetters_value_iff named]
        split
        · constructor
          · intro read
            cases read
            exact ⟨[], .waiting, rfl⟩
          · rintro ⟨items, spells, added⟩
            cases spells with
            | waiting =>
              cases added
              rfl
            | attached nonempty _ => exact absurd rfl nonempty
        · next value =>
          refine (addTo_step_eq_ok_iff (.value option (String.ofList value))).trans ?_
          constructor
          · rintro ⟨rfl, added⟩
            exact ⟨_, .equals value, added⟩
          · rintro ⟨items, spells, added⟩
            cases spells with
            | equals => exact ⟨rfl, added⟩
            | attached _ plain => exact absurd rfl plain
        · next nonempty plain =>
          refine (addTo_step_eq_ok_iff (.value option (String.ofList rest))).trans ?_
          have unlike : rest.head? ≠ some '=' := by
            intro first
            obtain ⟨value, rfl⟩ := List.head?_eq_some_iff.mp first
            exact plain value rfl
          constructor
          · rintro ⟨rfl, added⟩
            exact ⟨_, .attached nonempty unlike, added⟩
          · rintro ⟨items, spells, added⟩
            cases spells with
            | waiting => exact absurd rfl nonempty
            | equals value => exact absurd rfl (plain value)
            | attached _ _ => exact ⟨rfl, added⟩

/-- A text is cut at its first equals sign. -/
theorem takeWhile_dropWhile_append {name : List Char} (plain : '=' ∉ name) {rest : List Char}
    (ends : rest = [] ∨ ∃ value, rest = '=' :: value) :
    (name ++ rest).takeWhile (· != '=') = name ∧ (name ++ rest).dropWhile (· != '=') = rest := by
  have passed : ∀ character ∈ name, (character != '=') = true := by
    intro character member
    exact bne_iff_ne.mpr fun same => plain (same ▸ member)
  rw [List.takeWhile_append_of_pos passed, List.dropWhile_append_of_pos passed]
  rcases ends with rfl | ⟨value, rfl⟩ <;> simp

theorem readLong_of_plain {name : List Char} (plain : '=' ∉ name) :
    known.readLong name =
      match CommandOption.ofLongName? (String.ofList name) with
      | none => .error .usage
      | some (.flag flag) => do return (← known.raise flag, none)
      | some (.value option) => .ok (known, some option) := by
  have cut := takeWhile_dropWhile_append plain (Or.inl rfl)
  rw [List.append_nil] at cut
  rw [readLong, cut.1, cut.2]
  cases CommandOption.ofLongName? (String.ofList name) with
  | none => rfl
  | some option => cases option <;> rfl

theorem readLong_append_equals {name : List Char} (plain : '=' ∉ name) (value : List Char) :
    known.readLong (name ++ '=' :: value) =
      match CommandOption.ofLongName? (String.ofList name) with
      | some (.value option) => do return (← known.give option (String.ofList value), none)
      | _ => .error .usage := by
  have cut := takeWhile_dropWhile_append plain (Or.inr ⟨value, rfl⟩)
  rw [readLong, cut.1, cut.2]
  cases CommandOption.ofLongName? (String.ofList name) with
  | none => rfl
  | some option => cases option <;> rfl

theorem readLong_eq_ok_iff {text : List Char} :
    known.readLong text = .ok (next, waiting?) ↔
      ∃ items, SpellsName text items waiting? ∧ items.foldlM Item.addTo known = .ok next := by
  constructor
  · intro read
    by_cases equals : '=' ∈ text
    · obtain ⟨name, value, rfl, plain⟩ := List.eq_append_cons_of_mem equals
      rw [readLong_append_equals plain] at read
      split at read
      · next option named =>
        obtain ⟨rfl, added⟩ := (addTo_step_eq_ok_iff (.value option _)).mp read
        exact ⟨_, .equals value plain named, added⟩
      · cases read
    · rw [readLong_of_plain equals] at read
      split at read
      · cases read
      · next flag named =>
        obtain ⟨rfl, added⟩ := (addTo_step_eq_ok_iff (.flag flag)).mp read
        exact ⟨_, .flag equals named, added⟩
      · next option named =>
        cases read
        exact ⟨[], .waiting equals named, rfl⟩
  · rintro ⟨items, spells, added⟩
    cases spells with
    | flag plain named =>
      rw [readLong_of_plain plain, named]
      exact (addTo_step_eq_ok_iff (.flag _)).mpr ⟨rfl, added⟩
    | waiting plain named =>
      cases added
      rw [readLong_of_plain plain, named]
    | equals value plain named =>
      rw [readLong_append_equals plain, named]
      exact (addTo_step_eq_ok_iff (.value _ _)).mpr ⟨rfl, added⟩

theorem canBeValue_iff {word : String} : canBeValue word = true ↔ IsPlain word := by
  simp [canBeValue, IsPlain]

theorem not_isPlain_of_dash {word : String} {character : Char} {rest : List Char}
    (dash : word.toList = '-' :: character :: rest) : ¬ IsPlain word := by
  rintro (rfl | other)
  · cases dash
  · exact other (by rw [dash]; rfl)

/-- One word is read as the items that it spells. -/
theorem readOne_eq_ok_iff {word : String} :
    known.readOne word = .ok (next, waiting?) ↔
      ∃ items, SpellsWord word items waiting? ∧ items.foldlM Item.addTo known = .ok next := by
  unfold readOne
  split
  · next text dashes =>
    rw [readLong_eq_ok_iff]
    refine exists_congr fun items => and_congr_left' ⟨.name dashes, fun spells => ?_⟩
    cases spells with
    | name same spells =>
      cases dashes.symm.trans same
      exact spells
    | letters dash _ single _ =>
      cases dashes.symm.trans dash
      exact absurd rfl single
    | source plain => exact absurd plain (not_isPlain_of_dash dashes)
  · next letter rest single dash =>
    rw [readShort_eq_ok_iff]
    have unlike : (letter :: rest).head? ≠ some '-' := by
      rintro ⟨⟩
      exact single rfl
    refine exists_congr fun items => and_congr_left'
      ⟨.letters dash (List.cons_ne_nil _ _) unlike, fun spells => ?_⟩
    cases spells with
    | name dashes _ =>
      cases dash.symm.trans dashes
      exact absurd rfl unlike
    | letters same _ _ spells =>
      cases dash.symm.trans same
      exact spells
    | source plain => exact absurd plain (not_isPlain_of_dash dash)
  · next notName notLetters =>
    refine (addTo_step_eq_ok_iff (.source word)).trans ?_
    constructor
    · rintro ⟨rfl, added⟩
      refine ⟨_, .source ?_, added⟩
      by_cases dash : word.toList.head? = some '-'
      · obtain ⟨rest, starts⟩ := List.head?_eq_some_iff.mp dash
        cases rest with
        | nil => exact Or.inl (String.toList_inj.mp starts)
        | cons letter rest => exact absurd starts (notLetters letter rest)
      · exact Or.inr dash
    · rintro ⟨items, spells, added⟩
      cases spells with
      | name dashes _ => exact absurd dashes (notName _)
      | letters dash nonempty _ _ =>
        obtain ⟨letter, rest, rfl⟩ := List.exists_cons_of_ne_nil nonempty
        exact absurd dash (notLetters letter rest)
      | source plain => exact ⟨rfl, added⟩

theorem foldlM_takeSource (paths : List String) :
    paths.foldlM takeSource known = (paths.map Item.source).foldlM Item.addTo known := by
  rw [List.foldlM_map]
  rfl

/-- Words that are read spell items. An option at the end of a word takes the next word, so the
recursion is on the words behind either. -/
theorem exists_spells_of_readFrom {known : Arguments} (words : List String)
    (read : readFrom none known words = .ok result) :
    ∃ items, Spells words items ∧ items.foldlM Item.addTo known = .ok result := by
  match words with
  | [] =>
    cases read
    exact ⟨[], .nothing, rfl⟩
  | word :: rest =>
    rw [readFrom] at read
    split at read
    · next dashes =>
      rw [foldlM_takeSource] at read
      exact ⟨_, dashes ▸ .sources rest, read⟩
    next proper =>
    obtain ⟨⟨next, waiting?⟩, first, later⟩ := bind_eq_ok_iff.mp read
    obtain ⟨items, spells, added⟩ := readOne_eq_ok_iff.mp first
    cases waiting? with
    | none =>
      obtain ⟨others, spellsLater, addedLater⟩ := exists_spells_of_readFrom rest later
      exact ⟨_, .word proper spells spellsLater, foldlM_append_eq_ok_iff.mpr ⟨_, added, addedLater⟩⟩
    | some option =>
      match rest with
      | [] => cases later
      | value :: rest =>
        dsimp only at later
        rw [readFrom] at later
        split at later
        · next plain =>
          obtain ⟨given, gives, latest⟩ := bind_eq_ok_iff.mp later
          obtain ⟨others, spellsLater, addedLater⟩ := exists_spells_of_readFrom rest latest
          exact ⟨_, .pair proper spells (canBeValue_iff.mp plain) spellsLater,
            foldlM_append_eq_ok_iff.mpr
              ⟨_, added, foldlM_cons_eq_ok_iff.mpr ⟨given, gives, addedLater⟩⟩⟩
        · cases later

/-- Words are read as the items that they spell. -/
theorem readFrom_eq_ok_iff {words : List String} :
    readFrom none known words = .ok result ↔
      ∃ items, Spells words items ∧ items.foldlM Item.addTo known = .ok result := by
  refine ⟨exists_spells_of_readFrom words, ?_⟩
  rintro ⟨items, spells, added⟩
  induction spells generalizing known with
  | nothing =>
    cases added
    rfl
  | word proper spells others inductionHypothesis =>
    obtain ⟨next, first, later⟩ := foldlM_append_eq_ok_iff.mp added
    rw [readFrom, if_neg proper]
    exact bind_eq_ok_iff.mpr ⟨(next, none), readOne_eq_ok_iff.mpr ⟨_, spells, first⟩,
      inductionHypothesis later⟩
  | pair proper spells plain others inductionHypothesis =>
    obtain ⟨next, first, rest⟩ := foldlM_append_eq_ok_iff.mp added
    obtain ⟨given, gives, later⟩ := foldlM_cons_eq_ok_iff.mp rest
    rw [readFrom, if_neg proper]
    refine bind_eq_ok_iff.mpr ⟨(next, some _), readOne_eq_ok_iff.mpr ⟨_, spells, first⟩, ?_⟩
    dsimp only
    rw [readFrom, if_pos (canBeValue_iff.mpr plain)]
    exact bind_eq_ok_iff.mpr ⟨given, gives, inductionHypothesis later⟩
  | sources paths =>
    rw [readFrom, if_pos rfl, foldlM_takeSource]
    exact added

end Arguments

end SicAssembler
