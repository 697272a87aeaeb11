import Crossing.Json.Value
import Crossing.IdSet

/-!
# Records as structured values

`Format` says how a type is written as a structured value and read back.  The rules are the same
for all types.

* A **record** is written with all its members.  Reading takes members in any order and ignores
  those it does not know, but a known one may not stand twice.  A list of the members' values, in
  the order in which they are written, reads as the record too.
* A **missing** member is an error, unless the member may be null, or has a default.
* A **choice** is written as its name, or as a record whose only member has that name when there
  is something to say about it.
* A number in a member of numbers may have any spelling, but has to be in range.  A name or a
  count has to be a whole number in its range.
-/

namespace Crossing

/-- How a type is written as a structured value and read back. -/
class Format (K α : Type) where
  encode : α → Json K
  decode? : Json K → Option α

namespace Format

variable {K : Type} {α β : Type}

/-! ## Records -/

/-- The members of a record by their names. -/
abbrev Members (K : Type) := String → Option (Json K)

/-- Does no known member stand twice? -/
def isUnambiguous (names : List String) (ms : List (String × Json K)) : Bool :=
  names.all fun name => ms.countP (fun m => m.1 = name) ≤ 1

/-- The members of a record, or of a list with a value for each of them. -/
def members? (names : List String) : Json K → Option (Members K)
  | .record ms => if isUnambiguous names ms then some fun name => ms.lookup name else none
  | .list vs =>
    if vs.length = names.length then some fun name => (names.zip vs).lookup name else none
  | _ => none

/-- The members of a record of which each has a default; a list may end early. -/
def sparseMembers? (names : List String) : Json K → Option (Members K)
  | .record ms => if isUnambiguous names ms then some fun name => ms.lookup name else none
  | .list vs =>
    if vs.length ≤ names.length then some fun name => (names.zip vs).lookup name else none
  | _ => none

/-- A member that has to be there. -/
def required [Format K α] (ms : Members K) (name : String) : Option α := (ms name).bind decode?

/-- A member that may be missing or null. -/
def optional [Format K α] (ms : Members K) (name : String) : Option (Option α) :=
  match ms name with
  | none | some .null => some none
  | some v => (decode? v).map some

/-- A member with a default for when it is missing. -/
def withDefault [Format K α] (ms : Members K) (name : String) (default : α) : Option α :=
  match ms name with
  | none => some default
  | some v => decode? v

/-! ## Choices -/

/-- The name of a choice. -/
def encodeName [DecidableEq α] (names : List (String × α)) (a : α) : Json K :=
  .text (((names.find? fun n => n.2 = a).map Prod.fst).getD "")

/-- The choice of a name. -/
def decodeName? (names : List (String × α)) : Json K → Option α
  | .text name | .record [(name, .null)] => names.lookup name
  | _ => none

/-! ## Numbers, lists and sets -/

/-- A number of any spelling that is in range. -/
instance [Scalar K] : Format K K where
  encode := .real
  decode? v := v.number?.filter Scalar.isFinite

instance : Format K Bool where
  encode := .bool
  decode?
    | .bool b => some b
    | _ => none

/-- A whole number of 64 bits with a sign. -/
def signed? : Json K → Option Int
  | .integer n => if -Int.pow 2 63 ≤ n ∧ n < Int.pow 2 63 then some n else none
  | _ => none

/-- A whole number of 64 bits without a sign. -/
def unsigned? : Json K → Option Nat
  | .integer n => if 0 ≤ n ∧ n < Int.pow 2 64 then some n.toNat else none
  | _ => none

instance : Format K Nat where
  encode n := .integer n
  decode? := unsigned?

instance : Format K LaneletId where
  encode id := .integer id.value
  decode? v := (signed? v).map .mk

instance : Format K LightId where
  encode id := .integer id.value
  decode? v := (signed? v).map .mk

instance : Format K AreaId where
  encode id := .integer id.value
  decode? v := (signed? v).map .mk

instance : Format K ObjectId where
  encode id := .integer id.value
  decode? v := (unsigned? v).map .mk

instance [Format K α] : Format K (List α) where
  encode as := .list (as.map encode)
  decode?
    | .list vs => vs.mapM decode?
    | _ => none

instance [Format K α] [Format K β] : Format K (α × β) where
  encode p := .list [encode p.1, encode p.2]
  decode?
    | .list [a, b] => do return (← decode? a, ← decode? b)
    | _ => none

instance : Format K IdSet where
  encode s := encode s.toList
  decode? v := (decode? v).map IdSet.ofList

/-- The written form of a member that may be null. -/
def encodeOption [Format K α] : Option α → Json K
  | some a => encode a
  | none => .null

end Format

end Crossing
