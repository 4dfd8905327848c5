/-!
# Data

The parts of a graph are stored as data: truth values, numbers, texts, lists and
records.  A structure is stored as a record of its fields and can also be read
from a list of their values.  An alternative is stored under its tag.
-/

namespace DataflowTyping

/-- Structured data without a meaning of its own. -/
inductive Data where
  | null
  | bool (value : Bool)
  | integer (value : Int)
  /-- A number with decimal places, even if they are all zero. -/
  | decimal (mantissa : Int) (places : Nat)
  | text (value : String)
  | list (values : List Data)
  | record (entries : List (String × Data))
  deriving Inhabited

namespace Data

/-- The values of a name in a record, in order. -/
def valuesOf (entries : List (String × Data)) (name : String) : List Data :=
  (entries.filter fun entry => entry.1 = name).map Prod.snd

/--
The values of a structure's fields, in the order of their names, or `none` for a
field that is not there.  A record must not hold a field twice and may hold
others; a list must not be longer than the names.
-/
def optionalFields? (names : List String) : Data → Option (List (Option Data))
  | record entries =>
      names.mapM fun name =>
        match valuesOf entries name with
        | [] => some none
        | [value] => some (some value)
        | _ => none
  | list values =>
      if values.length ≤ names.length then
        some (values.map some ++ List.replicate (names.length - values.length) none)
      else
        none
  | _ => none

/-- The tag of an alternative and what is stored under it. -/
def tagged? : Data → Option (String × Option Data)
  | text tag => some (tag, none)
  | record [(tag, content)] => some (tag, some content)
  | _ => none

/-- The tag of an alternative under which nothing is stored. -/
def tag? (data : Data) : Option String :=
  match data.tagged? with
  | some (tag, none) | some (tag, some null) => some tag
  | _ => none

end Data

/-- Values that can be written as data and read from it. -/
class Stored (Value : Type) where
  encode : Value → Data
  decode? : Data → Option Value

export Stored (encode decode?)

namespace Stored

instance : Stored Bool where
  encode := .bool
  decode?
    | .bool value => some value
    | _ => none

instance : Stored String where
  encode := .text
  decode?
    | .text value => some value
    | _ => none

instance : Stored UInt8 where
  encode value := .integer value.toNat
  decode?
    | .integer value =>
        if 0 ≤ value ∧ value < 256 then some (UInt8.ofNat value.toNat) else none
    | _ => none

instance {Value : Type} [Stored Value] : Stored (List Value) where
  encode values := .list (values.map encode)
  decode?
    | .list values => values.mapM decode?
    | _ => none

end Stored

/--
A structure is stored as a record of its fields under distinct names.  When it is read,
a field may be `none` because it was not there.
-/
structure Layout (Value : Type) where
  names : List String
  write : Value → List Data
  read? : List (Option Data) → Option Value
  distinct : names.Nodup := by decide
  length_write (value : Value) : (write value).length = names.length := by intro; rfl

@[reducible]
def Layout.stored {Value : Type} (layout : Layout Value) : Stored Value where
  encode value := .record (layout.names.zip (layout.write value))
  decode? data := (data.optionalFields? layout.names).bind layout.read?

end DataflowTyping
