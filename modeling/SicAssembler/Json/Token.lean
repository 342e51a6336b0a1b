/-
This file reads the tokens of a JSON text one at a time and skips over whole
values. A text is read from its start; each reader returns what it read and
the text behind it.
-/

import SicAssembler.Json.Number
import SicAssembler.Json.Quoted

namespace SicAssembler.Json

/-! ### Tokens -/

/-- The smallest parts of a JSON text. -/
inductive Token where
  | openRecord
  | closeRecord
  | openList
  | closeList
  | colon
  | comma
  | null
  | boolean (value : Bool)
  | number (value : WrittenNumber)
  | string (parts : List StringPart)
deriving DecidableEq, Repr

/-- Whether a character may stand between tokens. -/
def isSpace (character : Char) : Bool :=
  character = ' ' || character = '\n' || character = '\t' || character = '\r'

/-- Read a token that starts at the very start of a text. -/
def readToken : List Char → Option (Token × List Char)
  | [] => none
  | '\x7b' :: rest => some (.openRecord, rest)
  | '\x7d' :: rest => some (.closeRecord, rest)
  | '[' :: rest => some (.openList, rest)
  | ']' :: rest => some (.closeList, rest)
  | ':' :: rest => some (.colon, rest)
  | ',' :: rest => some (.comma, rest)
  | '"' :: rest => (readParts rest).map fun (parts, rest) => (.string parts, rest)
  | 'n' :: 'u' :: 'l' :: 'l' :: rest => some (.null, rest)
  | 't' :: 'r' :: 'u' :: 'e' :: rest => some (.boolean true, rest)
  | 'f' :: 'a' :: 'l' :: 's' :: 'e' :: rest => some (.boolean false, rest)
  | text => (readNumber text).map fun (number, rest) => (.number number, rest)

/-- Read the next token of a text, past any space. -/
def nextToken (text : List Char) : Option (Token × List Char) :=
  readToken (text.dropWhile isSpace)

/-! ### Skipping values -/

/-- The kinds of values that hold others. -/
inductive Container where
  | list
  | record
deriving DecidableEq, Repr

/-- Where skipping stands inside the innermost open container. -/
inductive Place where
  /-- A value must follow. -/
  | beforeValue
  /-- The container was just opened. -/
  | atOpening
  /-- A value was just passed. -/
  | afterValue
deriving DecidableEq, Repr

/-- Pass a key and its colon. -/
def skipKey (text : List Char) : Option (List Char) :=
  match nextToken text with
  | some (.string _, rest) =>
    match nextToken rest with
    | some (.colon, rest) => some rest
    | _ => none
  | _ => none

/-- Pass what must stand before the next value of a container. -/
def enterMember : Container → List Char → Option (List Char)
  | .list, text => some text
  | .record, text => skipKey text

/-- The token that closes a container. -/
def Container.closing : Container → Token
  | list => .closeList
  | record => .closeRecord

/-- Skip to the end of the outermost value, with the containers that are open inside it, the
innermost first. The first argument bounds the number of steps; no token takes more than two. -/
def skipFrom : Nat → Place → List Container → List Char → Option (List Char)
  | _, .afterValue, [], text => some text
  | 0, _, _, _ => none
  | bound + 1, .beforeValue, stack, text =>
    match nextToken text with
    | some (.openList, rest) => skipFrom bound .atOpening (.list :: stack) rest
    | some (.openRecord, rest) => skipFrom bound .atOpening (.record :: stack) rest
    | some (.null, rest) => skipFrom bound .afterValue stack rest
    | some (.boolean _, rest) => skipFrom bound .afterValue stack rest
    | some (.number _, rest) => skipFrom bound .afterValue stack rest
    | some (.string _, rest) => skipFrom bound .afterValue stack rest
    | _ => none
  | _ + 1, .atOpening, [], _ => none
  | bound + 1, .atOpening, container :: stack, text =>
    match nextToken text with
    | some (token, rest) =>
      if token = container.closing then skipFrom bound .afterValue stack rest
      else (enterMember container text).bind (skipFrom bound .beforeValue (container :: stack))
    | none => none
  | bound + 1, .afterValue, container :: stack, text =>
    match nextToken text with
    | some (.comma, rest) =>
      (enterMember container rest).bind (skipFrom bound .beforeValue (container :: stack))
    | some (token, rest) =>
      if token = container.closing then skipFrom bound .afterValue stack rest else none
    | none => none

/-- Skip over one value. -/
def skipValue (text : List Char) : Option (List Char) :=
  skipFrom (2 * text.length + 1) .beforeValue [] text

end SicAssembler.Json
