/-
This file reads a sidecar from its text form. The text is read from its start
to its end, so the first problem counts, whether the text is no JSON text there
or says something else than it should. Members of a record may come in any
order, unknown members are skipped, and a field that is missing is noticed when
the record ends. A list of the field values may stand for a record.
-/

import SicAssembler.Sidecar
import SicAssembler.Sidecar.ReadError

namespace SicAssembler.Sidecar

/-- Reads a value from the start of a text and leaves the text behind it. -/
abbrev Reader (Value : Type) := StateT (List Char) (Except SidecarError) Value

/-! ### Tokens -/

/-- Refuse the text. -/
def refuse {Value : Type} (error : SidecarError) : Reader Value := fun _ => .error error

/-- Read the next token. -/
def token : Reader Json.Token := fun text =>
  match Json.nextToken text with
  | some found => .ok found
  | none => .error .syntactic

/-- Look at the next token without passing it. -/
def peek : Reader Json.Token := fun text =>
  match Json.nextToken text with
  | some (found, _) => .ok (found, text)
  | none => .error .syntactic

/-- More than the number of tokens in the text that is left. -/
def tokenBound : Reader Nat := fun text => .ok (text.length + 1, text)

/-- Pass the given token. -/
def pass (needed : Json.Token) : Reader Unit := do
  let found ← token
  if found = needed then return () else refuse .syntactic

/-- Pass a value, whatever it is. -/
def passValue : Reader Unit := fun text =>
  match Json.skipValue text with
  | some rest => .ok ((), rest)
  | none => .error .syntactic

/-! ### Strings and numbers -/

/-- The content of a string with the given parts. -/
def stringContent (parts : List Json.StringPart) : Reader String :=
  match Json.content? parts with
  | some content => return String.ofList content
  | none => refuse .syntactic

/-- Read a string. -/
def readString : Reader String := do
  match ← token with
  | .string parts => stringContent parts
  | found => refuse (.mismatch .string found)

/-- Read an unsigned number below a limit. -/
def readNatural (limit : Nat) (expected : Expected) : Reader Nat := do
  match ← token with
  | .number number =>
    match number.value? with
    | none => refuse .syntactic
    | some (.natural value) =>
      if value < limit then return value
      else refuse (.invalidValue (.number (.natural value)) expected)
    | some (.negative value) => refuse (.invalidValue (.number (.negative value)) expected)
    | some (.real value) => refuse (.invalidType (.number (.real value)) expected)
  | found => refuse (.mismatch expected found)

/-- Read an unsigned number of 32 bits. -/
def readWord : Reader Nat := readNatural 0x100000000 .word

/-- Read an unsigned number of 64 bits. -/
def readDoubleWord : Reader Nat := readNatural 0x10000000000000000 .doubleWord

/-! ### Lists -/

/-- Read the values of a list behind its first value. The first argument bounds the number of
tokens that are looked at between them. -/
def readLaterItems {Value : Type} (readItem : Reader Value) : Nat → Reader (List Value)
  | 0 => refuse .syntactic
  | bound + 1 => do
    match ← token with
    | .closeList => return []
    | .comma =>
      let item ← readItem
      let items ← readLaterItems readItem bound
      return item :: items
    | _ => refuse .syntactic

/-- Read the values of a list whose opening was just passed. -/
def readItems {Value : Type} (readItem : Reader Value) : Reader (List Value) := do
  match ← peek with
  | .closeList =>
    pass .closeList
    return []
  | _ =>
    let item ← readItem
    let items ← readLaterItems readItem (← tokenBound)
    return item :: items

/-- Read a list of values. -/
def readList {Value : Type} (readItem : Reader Value) : Reader (List Value) := do
  match ← token with
  | .openList => readItems readItem
  | found => refuse (.mismatch .sequence found)

/-! ### Members of a record -/

/-- Read the key of a member. -/
def readKey : Reader String := do
  match ← token with
  | .string parts => stringContent parts
  | _ => refuse .syntactic

/-- Read the members of a record behind its first member, each of which changes what is known so
far. The first argument bounds the number of tokens that are looked at between them. -/
def readLaterMembers {State : Type} (readMember : State → String → Reader State) :
    Nat → State → Reader State
  | 0, _ => refuse .syntactic
  | bound + 1, state => do
    match ← token with
    | .closeRecord => return state
    | .comma =>
      let key ← readKey
      let next ← readMember state key
      readLaterMembers readMember bound next
    | _ => refuse .syntactic

/-- Read the members of a record whose opening was just passed. -/
def readMembers {State : Type} (readMember : State → String → Reader State) (state : State) :
    Reader State := do
  match ← peek with
  | .closeRecord =>
    pass .closeRecord
    return state
  | _ =>
    let key ← readKey
    let next ← readMember state key
    readLaterMembers readMember (← tokenBound) next

/-- Read the address of a label. -/
def readLabel (labels : Dictionary Nat) (label : String) : Reader (Dictionary Nat) := do
  pass .colon
  let address ← readWord
  return labels.insert label address

/-- Read the labels. -/
def readLabels : Reader (Dictionary Nat) := do
  match ← token with
  | .openRecord => readMembers readLabel .empty
  | found => refuse (.mismatch .map found)

/-! ### Records with fixed fields -/

/-- How a record with fixed fields is read: its fields in order, which of them a draft of the
record has, and how the value of each is read into a draft. -/
structure Shape (Field Draft : Type) where
  expected : Expected
  fields : List Field
  name : Field → String
  has : Draft → Field → Bool
  read : Draft → Field → Reader Draft

namespace Shape

variable {Field Draft : Type}

/-- Read one member into a draft; a member that is not a field is skipped. -/
def readMember (shape : Shape Field Draft) (draft : Draft) (key : String) : Reader Draft :=
  match shape.fields.find? fun field => shape.name field = key with
  | none => do
    pass .colon
    passValue
    return draft
  | some field =>
    if shape.has draft field then refuse (.duplicateField key)
    else do
      pass .colon
      shape.read draft field

/-- The reason why a list that stands for a record has too few values. -/
def tooShort (shape : Shape Field Draft) (length : Nat) : SidecarError :=
  .invalidLength length shape.expected shape.fields.length

/-- Read the values of a list that stands for a record, behind its first value: those of the given
fields, before which there were `count` others. -/
def readLaterValues (shape : Shape Field Draft) : Nat → List Field → Draft → Reader Draft
  | _, [], draft => do
    pass .closeList
    return draft
  | count, field :: fields, draft => do
    match ← token with
    | .closeList => refuse (shape.tooShort count)
    | .comma =>
      let next ← shape.read draft field
      shape.readLaterValues (count + 1) fields next
    | _ => refuse .syntactic

/-- Read the values of a list that stands for a record and whose opening was just passed. -/
def readValues (shape : Shape Field Draft) (draft : Draft) : Reader Draft :=
  match shape.fields with
  | [] => do
    pass .closeList
    return draft
  | field :: fields => do
    match ← peek with
    | .closeList => refuse (shape.tooShort 0)
    | _ =>
      let next ← shape.read draft field
      shape.readLaterValues 1 fields next

/-- A draft in which no field is missing. -/
def complete (shape : Shape Field Draft) (draft : Draft) : Reader Draft :=
  match shape.fields.find? fun field => !shape.has draft field with
  | some field => refuse (.missingField (shape.name field))
  | none => return draft

/-- Read a record or a list that stands for one, starting from the given draft. -/
def readDraft (shape : Shape Field Draft) (start : Draft) : Reader Draft := do
  match ← token with
  | .openRecord =>
    let draft ← readMembers shape.readMember start
    shape.complete draft
  | .openList => shape.readValues start
  | found => refuse (.mismatch shape.expected found)

end Shape

/-! ### Lines -/

/-- The fields of a line. -/
inductive LineField where
  | address
  | text
  | lineNumber
deriving DecidableEq, Repr

/-- What is known of a line. -/
structure LineDraft where
  address? : Option Nat := none
  text? : Option String := none
  lineNumber? : Option Nat := none

/-- How a line is read. -/
def lineShape : Shape LineField LineDraft where
  expected := .line
  fields := [.address, .text, .lineNumber]
  name
    | .address => "address"
    | .text => "text"
    | .lineNumber => "line_number"
  has draft
    | .address => draft.address?.isSome
    | .text => draft.text?.isSome
    | .lineNumber => draft.lineNumber?.isSome
  read draft
    | .address => do return { draft with address? := some (← readWord) }
    | .text => do return { draft with text? := some (← readString) }
    | .lineNumber => do return { draft with lineNumber? := some (← readDoubleWord) }

/-- The line that a draft without missing fields stands for. -/
def LineDraft.line (draft : LineDraft) : SidecarLine where
  address := draft.address?.getD 0
  text := draft.text?.getD ""
  lineNumber := draft.lineNumber?.getD 0

/-- Read a line. -/
def readLine : Reader SidecarLine := do
  let draft ← lineShape.readDraft {}
  return draft.line

/-! ### Sidecars -/

/-- The fields of a sidecar. -/
inductive SidecarField where
  | name
  | start
  | length
  | lines
  | labels
deriving DecidableEq, Repr

/-- What is known of a sidecar. -/
structure SidecarDraft where
  name? : Option String := none
  start? : Option Nat := none
  length? : Option Nat := none
  lines? : Option (List SidecarLine) := none
  labels? : Option (Dictionary Nat) := none

/-- How a sidecar is read. -/
def sidecarShape : Shape SidecarField SidecarDraft where
  expected := .sidecar
  fields := [.name, .start, .length, .lines, .labels]
  name
    | .name => "name"
    | .start => "start"
    | .length => "length"
    | .lines => "lines"
    | .labels => "labels"
  has draft
    | .name => draft.name?.isSome
    | .start => draft.start?.isSome
    | .length => draft.length?.isSome
    | .lines => draft.lines?.isSome
    | .labels => draft.labels?.isSome
  read draft
    | .name => do return { draft with name? := some (← readString) }
    | .start => do return { draft with start? := some (← readWord) }
    | .length => do return { draft with length? := some (← readWord) }
    | .lines => do return { draft with lines? := some (← readList readLine) }
    | .labels => do return { draft with labels? := some (← readLabels) }

/-- The sidecar that a draft without missing fields stands for. -/
def SidecarDraft.sidecar (draft : SidecarDraft) : Sidecar where
  name := draft.name?.getD ""
  start := draft.start?.getD 0
  length := draft.length?.getD 0
  lines := draft.lines?.getD []
  labels := draft.labels?.getD .empty

/-- Read the text form of a sidecar; nothing but space may follow it. -/
def read (text : String) : Except SidecarError Sidecar := do
  let (draft, rest) ← (sidecarShape.readDraft {}).run text.toList
  if rest.all Json.isSpace then return draft.sidecar else .error .syntactic

end SicAssembler.Sidecar
