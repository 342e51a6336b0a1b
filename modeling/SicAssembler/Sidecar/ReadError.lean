/-
This file lists the reasons for which a text is not the text form of a sidecar,
and words them. Either the text is no JSON text, or it says something else than
a sidecar needs.
-/

import SicAssembler.Json.Token
import SicAssembler.ShortestDecimal
import SicAssembler.Text.Quoted

namespace SicAssembler

/-- What was found where something else was expected. -/
inductive Found where
  | null
  | boolean (value : Bool)
  | number (value : Json.Number)
  | string (value : String)
  | sequence
  | map

/-- The wording of what was found. -/
def Found.text : Found → String
  | null => "null"
  | boolean value => "boolean `" ++ (if value then "true" else "false") ++ "`"
  | number (.natural value) => "integer `" ++ decimal value ++ "`"
  | number (.negative value) => "integer `-" ++ decimal value ++ "`"
  | number (.real value) => "floating point `" ++ shortestDecimal value ++ "`"
  | string value => "string " ++ quoted value
  | sequence => "sequence"
  | map => "map"

/-- What a sidecar needs at some place. -/
inductive Expected where
  | string
  /-- An unsigned number of 32 bits. -/
  | word
  /-- An unsigned number of 64 bits. -/
  | doubleWord
  | sequence
  | map
  | sidecar
  | line
deriving DecidableEq, Repr

/-- The wording of what is needed. -/
def Expected.text : Expected → String
  | string => "a string"
  | word => "u32"
  | doubleWord => "usize"
  | sequence => "a sequence"
  | map => "a map"
  | sidecar => "struct Sdb"
  | line => "struct SdbLine"

/-- A reason for which a text is not that of a sidecar. -/
inductive SidecarError where
  | syntactic
  | missingField (field : String)
  | duplicateField (field : String)
  | invalidType (found : Found) (expected : Expected)
  | invalidValue (found : Found) (expected : Expected)
  /-- A list that stands for a record has too few values. -/
  | invalidLength (found : Nat) (expected : Expected) (needed : Nat)

namespace SidecarError

/-- The wording of a reason; there is none for a text that is no JSON text. -/
def message? : SidecarError → Option String
  | syntactic => none
  | missingField field => some ("missing field `" ++ field ++ "`")
  | duplicateField field => some ("duplicate field `" ++ field ++ "`")
  | invalidType found expected =>
    some ("invalid type: " ++ found.text ++ ", expected " ++ expected.text)
  | invalidValue found expected =>
    some ("invalid value: " ++ found.text ++ ", expected " ++ expected.text)
  | invalidLength found expected needed =>
    some ("invalid length " ++ decimal found ++ ", expected " ++ expected.text ++ " with " ++
      decimal needed ++ " elements")

/-- The reason why a token cannot start what is expected. -/
def mismatch (expected : Expected) : Json.Token → SidecarError
  | .openRecord => invalidType .map expected
  | .openList => invalidType .sequence expected
  | .null => invalidType .null expected
  | .boolean value => invalidType (.boolean value) expected
  | .number number =>
    match number.value? with
    | some value => invalidType (.number value) expected
    | none => syntactic
  | .string parts =>
    match Json.content? parts with
    | some value => invalidType (.string (String.ofList value)) expected
    | none => syntactic
  | .closeRecord => syntactic
  | .closeList => syntactic
  | .colon => syntactic
  | .comma => syntactic

end SidecarError

end SicAssembler
