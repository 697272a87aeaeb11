import Crossing.Scalar

/-!
# Structured values

What a JSON text says, with the spelling gone: blanks, escapes and the way a number was written
are no longer there.  Two distinctions of the text stay, because readers of records need them.

* A number is either a whole number written without point and exponent (`integer`) or any other
  number (`real`).  Names and counts are read from the first kind only, quantities from both.
  Minus zero is `real`, so its sign survives.
* The members of a record keep their order and their repetitions.

A part of a text may keep every rule of spelling and still stand for no value (`void`).  Readers
that skip a member do not mind what it holds; `Json.isSound` is for those who want a whole text
to have a meaning.
-/

namespace Crossing

/-- A value that a JSON text can hold, over the numbers `K`. -/
inductive Json (K : Type) where
  | null
  | bool (b : Bool)
  | integer (n : Int)
  | real (x : K)
  | text (s : String)
  /-- What is spelled by the rules and stands for nothing: a number past the range of `K`, a text
  with one half of a surrogate pair, a record with a member of such a name. -/
  | void
  | list (items : List (Json K))
  | record (members : List (String × Json K))
  deriving Inhabited

namespace Json

variable {K : Type}

/-- The number nearest to a whole number. -/
def ofInt [Scalar K] (n : Int) : K :=
  let magnitude : K := OfScientific.ofScientific n.natAbs false 0
  if n < 0 then -magnitude else magnitude

/-- A number of any spelling that is in the range of `K`. -/
def number? [Scalar K] : Json K → Option K
  | integer n => some (ofInt n)
  | real x => some x
  | _ => none

/-- The members of a record. -/
def members? : Json K → Option (List (String × Json K))
  | record ms => some ms
  | _ => none

/-- The items of a list. -/
def items? : Json K → Option (List (Json K))
  | list xs => some xs
  | _ => none

mutual

/-- Does every part stand for a value, with lists and records nested at most `levels` deep? -/
def isSound (levels : Nat) : Json K → Bool
  | void => false
  | list items =>
    match levels with
    | 0 => false
    | levels + 1 => areSound levels items
  | record members =>
    match levels with
    | 0 => false
    | levels + 1 => membersAreSound levels members
  | _ => true

/-- `isSound` for all items of a list. -/
def areSound (levels : Nat) : List (Json K) → Bool
  | [] => true
  | v :: rest => isSound levels v && areSound levels rest

/-- `isSound` for all members of a record. -/
def membersAreSound (levels : Nat) : List (String × Json K) → Bool
  | [] => true
  | (_, v) :: rest => isSound levels v && membersAreSound levels rest

end

end Json

end Crossing
