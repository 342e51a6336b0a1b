/-
This file joins the lines of a settings file to logical lines. A logical line
goes on in the next line while a quotation is open, and a line that starts with
a comment is none. A comment behind a blank ends a logical line. The last line
of a file may lack its line feed, but it is lost if it then stops right behind a
backslash, or behind a blank that could still be followed by a comment.
-/

import SicAssembler.Text.Blank
import SicAssembler.Text.Lines

namespace SicAssembler

/-- What the characters of a logical line that were passed so far leave open. -/
inductive LineState where
  | complete
  /-- A blank was passed, behind which a comment can start. -/
  | blank
  | escape
  | single
  | singleEscape
  | double
  | doubleEscape
deriving DecidableEq, Repr

/-- How a line ends. -/
inductive LineEnd where
  | reached (state : LineState)
  /-- In a comment, with the given text in front of it. -/
  | comment (before : List Char)
deriving DecidableEq, Repr

/-- The end of a line with a character in front of it. -/
def LineEnd.behind (character : Char) : LineEnd → LineEnd
  | reached state => reached state
  | comment before => comment (character :: before)

namespace LineState

/-- What a character leaves open that no quotes and no backslash protect. -/
def ofUnprotected (character : Char) : LineState :=
  if character = '\\' then escape
  else if character = '"' then double
  else if character = '\'' then single
  else complete

/-- Whether a character is a blank within a line. -/
def isInnerBlank (character : Char) : Bool :=
  isBlank character && character != '\n' && character != '\r'

/-- Pass a character. A blank directly behind another one is an ordinary character. -/
def pass : LineState → Char → LineState
  | complete, character => if isInnerBlank character then blank else ofUnprotected character
  | blank, character => ofUnprotected character
  | escape, _ => complete
  | single, character =>
    if character = '\\' then singleEscape
    else if character = '\'' then complete
    else single
  | singleEscape, _ => single
  | double, character =>
    if character = '\\' then doubleEscape
    else if character = '"' then complete
    else double
  | doubleEscape, _ => double

/-- Pass a line, up to a comment if there is one. -/
def passLine : LineState → List Char → LineEnd
  | state, [] => .reached state
  | state, character :: rest =>
    if state = blank ∧ character = '#' then .comment []
    else (passLine (state.pass character) rest).behind character

end LineState

/-- The logical lines that lines with their ends make up, where `begun` was read of the first
already. -/
def joinLines : LineState → List Char → List (List Char) → List (List Char)
  | _, _, [] => []
  | state, begun, line :: rest =>
    let joined := begun ++ line
    if (joined.dropWhile isBlank).head? = some '#' then joinLines .complete [] rest
    else
      match state.passLine line with
      | .comment before => (begun ++ before) :: joinLines .complete [] rest
      | .reached .complete => dropLineEnd joined :: joinLines .complete [] rest
      | .reached next => joinLines next joined rest

/-- The logical lines of a text. -/
def logicalLines (text : List Char) : List (List Char) :=
  joinLines .complete [] (endedLines text)

end SicAssembler
