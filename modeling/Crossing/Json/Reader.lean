import Crossing.Json.Numeral

/-!
# Reading JSON

`Json.read?` reads exactly one value from a text.  The grammar is the strict one: no comments, no
trailing commas, no leading zeros, no control characters inside texts, and nothing but blanks
after the value.  What keeps these rules is read, even where a part of it stands for no value
(`Json.void`); whether that matters is for the user of the part to say.

Every reader takes the characters that are left and gives back those after what it read.  Values
nest, so the readers of values, lists and records call each other; `fuel` bounds how often, and
`Json.read?` starts with more fuel than the text has characters, each call using up one.
-/

namespace Crossing.Json

/-- Is this one of the four blanks between tokens? -/
def isBlank (c : Char) : Bool := c = ' ' || c = '\t' || c = '\n' || c = '\r'

/-- The characters from the first that is not blank. -/
def skipBlanks (cs : List Char) : List Char := cs.dropWhile isBlank

/-- The rest after a fixed word. -/
def expect (word : String) (cs : List Char) : Option (List Char) :=
  if word.toList.isPrefixOf cs then some (cs.drop word.length) else none

/-! ## Texts -/

/-- The value of a hexadecimal digit. -/
def hexDigit? (c : Char) : Option Nat :=
  if c.isDigit then some (c.toNat - '0'.toNat)
  else if 'a' ≤ c ∧ c ≤ 'f' then some (c.toNat - 'a'.toNat + 10)
  else if 'A' ≤ c ∧ c ≤ 'F' then some (c.toNat - 'A'.toNat + 10)
  else none

/-- The value of four hexadecimal digits. -/
def codeUnit? : List Char → Option (Nat × List Char)
  | a :: b :: c :: d :: rest => do
    let a ← hexDigit? a
    let b ← hexDigit? b
    let c ← hexDigit? c
    let d ← hexDigit? d
    return (((a * 16 + b) * 16 + c) * 16 + d, rest)
  | _ => none

/-- Is this the first half of a surrogate pair? -/
def isLeading (u : Nat) : Bool := 0xD800 ≤ u && u < 0xDC00

/-- Is this the second half of a surrogate pair? -/
def isTrailing (u : Nat) : Bool := 0xDC00 ≤ u && u < 0xE000

/-- The character after `\u`; the character is missing where half of a pair stands alone. -/
def unicode? (cs : List Char) : Option (Option Char × List Char) := do
  let (u, rest) ← codeUnit? cs
  if isLeading u then
    match rest with
    | '\\' :: 'u' :: more =>
      match codeUnit? more with
      | some (v, more) =>
        if isTrailing v then
          return (some (Char.ofNat (0x10000 + (u - 0xD800) * 0x400 + (v - 0xDC00))), more)
        else return (none, rest)
      | none => return (none, rest)
    | _ => return (none, rest)
  else if isTrailing u then return (none, rest)
  else return (some (Char.ofNat u), rest)

/-- The character that a backslash and one more character stand for. -/
def escaped? : Char → Option Char
  | '"' => some '"'
  | '\\' => some '\\'
  | '/' => some '/'
  | 'b' => some '\x08'
  | 'f' => some '\x0c'
  | 'n' => some '\n'
  | 'r' => some '\r'
  | 't' => some '\t'
  | _ => none

/-- The rest of a text after its opening quote; `none` inside where half of a surrogate pair
stood.  `done` holds the characters read so far, the last one first. -/
def textRest? (fuel : Nat) (done : List Char) (whole : Bool) (cs : List Char) :
    Option (Option String × List Char) :=
  match fuel, cs with
  | 0, _ | _, [] => none
  | _ + 1, '"' :: rest =>
    some (if whole then some (String.ofList done.reverse) else none, rest)
  | fuel + 1, '\\' :: 'u' :: rest =>
    match unicode? rest with
    | some (some c, rest) => textRest? fuel (c :: done) whole rest
    | some (none, rest) => textRest? fuel done false rest
    | none => none
  | fuel + 1, '\\' :: c :: rest =>
    match escaped? c with
    | some c => textRest? fuel (c :: done) whole rest
    | none => none
  | fuel + 1, c :: rest =>
    if c = '\\' || c.toNat < 0x20 then none else textRest? fuel (c :: done) whole rest

/-- A text. -/
def text? (cs : List Char) : Option (Option String × List Char) :=
  match cs with
  | '"' :: rest => textRest? (rest.length + 1) [] true rest
  | _ => none

/-! ## Values -/

section Values

variable {K : Type} [Scalar K]

mutual

/-- A value after blanks. -/
def readValue? (fuel : Nat) (cs : List Char) : Option (Json K × List Char) :=
  match fuel with
  | 0 => none
  | fuel + 1 =>
    match skipBlanks cs with
    | 'n' :: rest => (expect "ull" rest).map (null, ·)
    | 't' :: rest => (expect "rue" rest).map (bool true, ·)
    | 'f' :: rest => (expect "alse" rest).map (bool false, ·)
    | '"' :: rest =>
      match textRest? (rest.length + 1) [] true rest with
      | some (some s, rest) => some (text s, rest)
      | some (none, rest) => some (void, rest)
      | none => none
    | '[' :: rest =>
      match skipBlanks rest with
      | ']' :: rest => some (list [], rest)
      | rest => readItems? fuel [] rest
    | '{' :: rest =>
      match skipBlanks rest with
      | '}' :: rest => some (record [], rest)
      | rest => readMembers? fuel [] true rest
    | rest => numeral? rest

/-- The rest of a list of at least one more item; `done` holds the items read so far, the last
one first. -/
def readItems? (fuel : Nat) (done : List (Json K)) (cs : List Char) : Option (Json K × List Char) :=
  match fuel with
  | 0 => none
  | fuel + 1 =>
    match readValue? fuel cs with
    | none => none
    | some (v, rest) =>
      match skipBlanks rest with
      | ',' :: rest => readItems? fuel (v :: done) rest
      | ']' :: rest => some (list (v :: done).reverse, rest)
      | _ => none

/-- The rest of a record of at least one more member; `done` holds the members read so far, the
last one first, and `whole` says that all of them had a name. -/
def readMembers? (fuel : Nat) (done : List (String × Json K)) (whole : Bool) (cs : List Char) :
    Option (Json K × List Char) :=
  match fuel with
  | 0 => none
  | fuel + 1 =>
    match text? (skipBlanks cs) with
    | none => none
    | some (name, rest) =>
      match skipBlanks rest with
      | ':' :: rest =>
        match readValue? fuel rest with
        | none => none
        | some (v, rest) =>
          let done := (name.getD "", v) :: done
          let whole := whole && name.isSome
          match skipBlanks rest with
          | ',' :: rest => readMembers? fuel done whole rest
          | '}' :: rest => some (if whole then record done.reverse else void, rest)
          | _ => none
      | _ => none

end

/-- **The value that a whole text holds.** -/
def read? (s : String) : Option (Json K) :=
  let cs := s.toList
  match readValue? (2 * cs.length + 2) cs with
  | some (v, rest) => if (skipBlanks rest).isEmpty then some v else none
  | none => none

end Values

end Crossing.Json
