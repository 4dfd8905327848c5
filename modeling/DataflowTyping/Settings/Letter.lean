import DataflowTyping.Settings.Letter.Hidden
import DataflowTyping.Settings.Letter.Initial
import DataflowTyping.Settings.Letter.Inner

/-!
# Characters of the settings text

Which characters separate the words of a settings text, which ones make up its
identifiers, and how a single character is shown in a message.
-/

namespace DataflowTyping

namespace Letter

/--
Whether a character lies in one of some ranges of code points, ends included.
The ranges ascend, so the search ends at the first one that starts behind it.
-/
def inRanges (letter : Char) : List (Nat × Nat) → Bool
  | [] => false
  | (first, last) :: ranges =>
      first ≤ letter.toNat && (letter.toNat ≤ last || inRanges letter ranges)

/-- The pattern white space of Unicode, which separates words. -/
def blankRanges : List (Nat × Nat) :=
  [(0x9, 0xd), (0x20, 0x20), (0x85, 0x85), (0x200e, 0x200f), (0x2028, 0x2029)]

/-- White space between words; a space that does not break a line is not among it. -/
def isBlank (letter : Char) : Bool :=
  inRanges letter blankRanges

/-- An identifier starts with a letter or an underscore. -/
def startsName (letter : Char) : Bool :=
  letter = '_' || inRanges letter initialRanges

/-- An identifier goes on with letters, underscores, digits and marks. -/
def continuesName (letter : Char) : Bool :=
  inRanges letter initialRanges || inRanges letter innerRanges

/-- A raw identifier may also hold a point, a plus and a minus. -/
def isRaw (letter : Char) : Bool :=
  continuesName letter || letter = '.' || letter = '+' || letter = '-'

/-- A character as shown between single quotes. -/
def shown (letter : Char) : String :=
  match letter.toNat with
  | 0 => "\\0"
  | 9 => "\\t"
  | 10 => "\\n"
  | 13 => "\\r"
  | 39 => "\\'"
  | 92 => "\\\\"
  | code =>
      if inRanges letter hiddenRanges then
        "\\u\x7b" ++ String.ofList (Nat.toDigits 16 code) ++ "\x7d"
      else
        String.singleton letter

/-- Characters as shown between double quotes, none of which is a quote. -/
def shownRun (letters : List Char) : String :=
  String.join (letters.map shown)

/-- An identifier as shown in a message, marked as raw if it is not a plain one. -/
def shownName (name : List Char) : String :=
  let plain :=
    match name with
    | [] => false
    | first :: others => startsName first && others.all continuesName
  if plain then "`" ++ String.ofList name ++ "`" else "`r#" ++ String.ofList name ++ "`"

end Letter

end DataflowTyping
