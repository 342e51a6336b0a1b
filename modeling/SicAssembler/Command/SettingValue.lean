/-
This file reads the value of a setting. Parts of it may be quoted, a backslash
outside of single quotes escapes the character behind it, and a dollar sign
outside of single quotes stands before the name of another setting, in braces or
not, whose value takes its place. A blank outside of quotes ends the value, and
only a comment may follow.
-/

import SicAssembler.Text.Alphanumeric

namespace SicAssembler

/-- The quotes that a part of a value stands in. -/
inductive Quotes where
  | outside
  | single
  | double
deriving DecidableEq, Repr

/-- Where in a value its reader is. -/
inductive ValueState where
  | text (quotes : Quotes)
  | escape (quotes : Quotes)
  /-- In the name of a setting, of which the given part was read. -/
  | name (quotes : Quotes) (read : List Char)
  /-- In a name between braces. -/
  | braced (quotes : Quotes) (read : List Char)
  /-- Behind the value. -/
  | behind
  /-- In the comment behind the value. -/
  | comment
deriving DecidableEq, Repr

/-- The character that an escaped character stands for. -/
def escaped? (character : Char) : Option Char :=
  if character = 'n' then some '\n'
  else if ['\\', '\'', '"', '$', ' '].contains character then some character
  else none

namespace ValueState

/-- Pass a character that stands in the text of a value: the text that it adds, and the state
behind it. -/
def passText : Quotes → Char → List Char × ValueState
  | .outside, character =>
    if character = '$' then ([], name .outside [])
    else if character = '\'' then ([], text .single)
    else if character = '"' then ([], text .double)
    else if character = '\\' then ([], escape .outside)
    else if character = ' ' || character = '\t' then ([], behind)
    else ([character], text .outside)
  | .single, character =>
    if character = '\'' then ([], text .outside) else ([character], text .single)
  | .double, character =>
    if character = '$' then ([], name .double [])
    else if character = '"' then ([], text .outside)
    else if character = '\\' then ([], escape .double)
    else ([character], text .double)

/-- Pass a character behind a dollar sign and the part of a name that was read. The character
that ends a name without braces belongs to the text, even if it is a quote or a blank. -/
def passName (valueOf : String → String) (quotes : Quotes) (read : List Char) (character : Char) :
    List Char × ValueState :=
  let value := (valueOf (String.ofList read)).toList
  if isAlphanumeric character then ([], name quotes (read ++ [character]))
  else if character = '\x7b' ∧ read = [] then ([], braced quotes [])
  else if character = '$' then (value, name quotes [])
  else (value ++ [character], text quotes)

/-- Pass a character: the text that it adds to the value, and the state behind it. There is none
if the character cannot stand there. -/
def pass (valueOf : String → String) : ValueState → Char → Option (List Char × ValueState)
  | text quotes, character => some (passText quotes character)
  | escape quotes, character =>
    (escaped? character).map fun meant => ([meant], text quotes)
  | name quotes read, character => some (passName valueOf quotes read character)
  | braced quotes read, character =>
    if character = '\x7d' then some ((valueOf (String.ofList read)).toList, text quotes)
    else some ([], braced quotes (read ++ [character]))
  | behind, character =>
    if character = ' ' || character = '\t' then some ([], behind)
    else if character = '#' then some ([], comment)
    else none
  | comment, _ => some ([], comment)

/-- The text that is added to a value that ends here. There is none if quotes or braces are
open. -/
def finish (valueOf : String → String) : ValueState → Option (List Char)
  | text .outside => some []
  | escape .outside => some []
  | name .outside read => some (valueOf (String.ofList read)).toList
  | behind => some []
  | comment => some []
  | _ => none

/-- Read the rest of a value. -/
def read (valueOf : String → String) : ValueState → List Char → Option (List Char)
  | state, [] => state.finish valueOf
  | state, character :: rest =>
    match state.pass valueOf character with
    | none => none
    | some (added, next) => (read valueOf next rest).map (added ++ ·)

end ValueState

/-- Read a value in which `valueOf` tells the values of other settings. -/
def readValue (valueOf : String → String) (text : List Char) : Option (List Char) :=
  ValueState.read valueOf (.text .outside) text

/-- The names of the settings that a text may refer to. -/
def mentionedNames : List Char → List String
  | [] => []
  | '$' :: '\x7b' :: rest =>
    String.ofList (rest.takeWhile (· != '\x7d')) :: mentionedNames rest
  | '$' :: rest => String.ofList (rest.takeWhile isAlphanumeric) :: mentionedNames rest
  | _ :: rest => mentionedNames rest

end SicAssembler
