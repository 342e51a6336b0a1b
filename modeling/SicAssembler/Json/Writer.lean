/-
This file writes the lists and records of a JSON text in their compact form,
without space between tokens.
-/

import SicAssembler.Json.Quoted

namespace SicAssembler.Json

/-- Texts divided by commas. -/
def commaSeparated : List (List Char) → List Char
  | [] => []
  | [text] => text
  | text :: next :: rest => text ++ ',' :: commaSeparated (next :: rest)

/-- The list of values whose texts are given. -/
def list (values : List (List Char)) : List Char :=
  '[' :: commaSeparated values ++ [']']

/-- A key with the text of its value. -/
def member (key : String) (value : List Char) : List Char :=
  quote key.toList ++ ':' :: value

/-- The record of members whose texts are given. -/
def record (members : List (List Char)) : List Char :=
  '\x7b' :: commaSeparated members ++ ['\x7d']

end SicAssembler.Json
