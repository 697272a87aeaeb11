import Crossing.Json.Value

/-!
# Writing JSON

`Json.render` writes a value on one line without blanks.  Quotes, backslashes and control
characters of texts are escaped; everything else is written as it is.

The writers take what has been written before and add to it, so that no text is copied.
-/

namespace Crossing.Json

/-- A hexadecimal digit. -/
def hexDigit (n : Nat) : Char := Nat.digitChar n

/-- A character inside a text. -/
def escape (c : Char) : String :=
  if c = '"' then "\\\""
  else if c = '\\' then "\\\\"
  else if c = '\n' then "\\n"
  else if c.toNat < 0x20 then
    "\\u00" ++ String.singleton (hexDigit (c.toNat / 16)) ++
      String.singleton (hexDigit (c.toNat % 16))
  else String.singleton c

/-- A text between quotes. -/
def quote (s : String) : String :=
  "\"" ++ s.foldl (fun done c => done ++ escape c) "" ++ "\""

variable {K : Type} [Numeral K]

mutual

/-- What is written so far, followed by a value. -/
def write (done : String) : Json K → String
  | null => done ++ "null"
  | bool b => done ++ if b then "true" else "false"
  | integer n => done ++ toString n
  | real x => done ++ Numeral.text x
  | text s => done ++ quote s
  | void => done ++ "null"
  | list items => writeItems (done ++ "[") items ++ "]"
  | record members => writeMembers (done ++ "\x7b") members ++ "\x7d"

/-- What is written so far, followed by values separated by commas. -/
def writeItems (done : String) : List (Json K) → String
  | [] => done
  | [v] => write done v
  | v :: rest => writeItems (write done v ++ ",") rest

/-- What is written so far, followed by names and values separated by commas. -/
def writeMembers (done : String) : List (String × Json K) → String
  | [] => done
  | [(name, v)] => write (done ++ quote name ++ ":") v
  | (name, v) :: rest => writeMembers (write (done ++ quote name ++ ":") v ++ ",") rest

end

/-- The text of a value. -/
def render (v : Json K) : String := write "" v

end Crossing.Json
