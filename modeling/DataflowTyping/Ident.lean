import DataflowTyping.Hex

/-!
# Identifiers

Nodes, ports and links are told apart by 128-bit numbers.  A number is written
as 32 hexadecimal digits in groups of 8, 4, 4, 4 and 12, joined by hyphens, and
`Uuid.ofText?_text` says that the written form reads back.  Digits without
groups and groups in braces or behind `urn:uuid:` are read as well.
-/

namespace DataflowTyping

/-- A 128-bit number that identifies something. -/
structure Uuid where
  bits : BitVec 128
  deriving DecidableEq

namespace Uuid

/-- The identifier with a given number, modulo two to the power 128. -/
def ofNat (number : Nat) : Uuid :=
  ⟨BitVec.ofNat 128 number⟩

def toNat (uuid : Uuid) : Nat :=
  uuid.bits.toNat

/-- The identifier zero, which stands in where nothing has been identified yet. -/
def zero : Uuid :=
  ofNat 0

/-- Put a hyphen after each group of the given widths. -/
def hyphenate : List Nat → List Char → List Char
  | [], text => text
  | width :: widths, text => text.take width ++ '-' :: hyphenate widths (text.drop width)

/-- Take out a hyphen after each group of the given widths, if they all stand there. -/
def dehyphenate? : List Nat → List Char → Option (List Char)
  | [], text => some text
  | width :: widths, text =>
      match text.drop width with
      | '-' :: rest => (dehyphenate? widths rest).map (text.take width ++ ·)
      | _ => none

theorem dehyphenate?_hyphenate (widths : List Nat) (text : List Char)
    (longEnough : widths.foldr Nat.add 0 ≤ text.length) :
    dehyphenate? widths (hyphenate widths text) = some text := by
  induction widths generalizing text with
  | nil => rfl
  | cons width widths ih =>
      rw [List.foldr_cons, Nat.add_eq] at longEnough
      have tailLong : widths.foldr Nat.add 0 ≤ (text.drop width).length := by
        rw [List.length_drop]
        omega
      have takeLength : (text.take width).length = width := by
        simp only [List.length_take]
        omega
      simp [hyphenate, dehyphenate?, takeLength, ih _ tailLong]

/-- The widths of the groups that a hyphen follows. -/
def groupWidths : List Nat :=
  [8, 4, 4, 4]

/-- The written form: 32 digits in lower case, in five groups. -/
def text (uuid : Uuid) : String :=
  String.ofList (hyphenate groupWidths (Hex.text 32 uuid.toNat))

@[simp]
theorem ofNat_toNat (uuid : Uuid) : ofNat uuid.toNat = uuid := by
  simp [ofNat, toNat]

/-- Read 32 digits, in lower or upper case. -/
def ofDigits? (digits : List Char) : Option Uuid :=
  if digits.length = 32 then (Hex.number? digits).map ofNat else none

def ofGroups? (letters : List Char) : Option Uuid :=
  (dehyphenate? groupWidths letters).bind ofDigits?

/-- What may stand before and behind the groups, in lower or upper case. -/
def wrappings : List (List Char × List Char) :=
  [(['\x7b'], ['\x7d']), ("urn:uuid:".toList, [])]

def unwrap? (wrapping : List Char × List Char) (letters : List Char) : Option (List Char) :=
  let before := wrapping.1.length
  if (letters.take before).map Char.toLower = wrapping.1 then
    wrapping.2.isSuffixOf? (letters.drop before)
  else
    none

def ofWrapped? (letters : List Char) : Option Uuid :=
  wrappings.findSome? fun wrapping => (unwrap? wrapping letters).bind ofGroups?

/-- Read groups, alone or in a wrapping, or digits without any groups. -/
def ofText? (written : String) : Option Uuid :=
  ((ofGroups? written.toList).or (ofWrapped? written.toList)).or (ofDigits? written.toList)

theorem ofDigits?_text (uuid : Uuid) : ofDigits? (Hex.text 32 uuid.toNat) = some uuid := by
  have small : uuid.toNat % Hex.capacity 32 = uuid.toNat :=
    Nat.mod_eq_of_lt (Nat.lt_of_lt_of_eq uuid.bits.isLt (by decide))
  rw [ofDigits?, Hex.length_text, if_pos rfl, Hex.number?_text, small, Option.map_some,
    ofNat_toNat]

/-- The written form reads back. -/
theorem ofText?_text (uuid : Uuid) : ofText? uuid.text = some uuid := by
  have grouped : dehyphenate? groupWidths (hyphenate groupWidths (Hex.text 32 uuid.toNat)) =
      some (Hex.text 32 uuid.toNat) :=
    dehyphenate?_hyphenate _ _ (by rw [Hex.length_text]; decide)
  have read : ofGroups? uuid.text.toList = some uuid := by
    rw [ofGroups?, text, String.toList_ofList, grouped, Option.bind_some, ofDigits?_text]
  rw [ofText?, read, Option.some_or, Option.some_or]

end Uuid

structure NodeId where
  uuid : Uuid
  deriving DecidableEq

structure PortId where
  uuid : Uuid
  deriving DecidableEq

structure LinkId where
  uuid : Uuid
  deriving DecidableEq

def NodeId.label (node : NodeId) : String :=
  "NodeId(" ++ node.uuid.text ++ ")"

def PortId.label (port : PortId) : String :=
  "PortId(" ++ port.uuid.text ++ ")"

end DataflowTyping
