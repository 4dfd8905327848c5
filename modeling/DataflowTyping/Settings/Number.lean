import DataflowTyping.Hex
import DataflowTyping.Settings.Scan

/-!
# Numbers

A number is an integer of base 2, 8, 10 or 16, or a decimal number with a point
or an exponent.  What looks like an integer and is none may still be a decimal
number, for instance because it is too large for an integer.
-/

namespace DataflowTyping

namespace Scan

def isSign (letter : Char) : Bool :=
  letter = '+' || letter = '-'

/-- The characters of an integer: digits of any base and underscores. -/
def isIntegral (letter : Char) : Bool :=
  (Hex.value? letter).isSome || letter = '_'

def isExponentMark (letter : Char) : Bool :=
  letter = 'e' || letter = 'E'

def isDecimal (letter : Char) : Bool :=
  letter.isDigit || isExponentMark letter || isSign letter || letter = '.' || letter = '_'

def afterSign (text : List Char) : Rest text :=
  match text with
  | [] => Rest.whole []
  | first :: others =>
      if isSign first then Rest.tail first others else Rest.whole (first :: others)

/-- The magnitudes of the largest and of the smallest integer that are allowed. -/
structure Bounds where
  highest : Nat
  lowest : Nat

/-- The largest magnitude of an integer with a given sign. -/
def Bounds.limit (bounds : Bounds) (negative : Bool) : Nat :=
  if negative then bounds.lowest else bounds.highest

/-- The bounds of integers without a suffix. -/
def Bounds.widest : Bounds :=
  ⟨18446744073709551615, 9223372036854775808⟩

/-- The suffixes of integers and the bounds that they set. -/
def integerSuffixes : List (String × Bounds) :=
  [("i8", ⟨127, 128⟩), ("i16", ⟨32767, 32768⟩), ("i32", ⟨2147483647, 2147483648⟩),
    ("i64", ⟨9223372036854775807, 9223372036854775808⟩), ("u8", ⟨255, 0⟩), ("u16", ⟨65535, 0⟩),
    ("u32", ⟨4294967295, 0⟩), ("u64", ⟨18446744073709551615, 0⟩)]

/-- The bounds that the suffix at the start of a text sets, and what follows it. -/
def integerSuffix? (text : List Char) : Option (Bounds × Shorter text) :=
  integerSuffixes.findSome? fun (suffix, bounds) =>
    (keyword? suffix text).map fun rest => (bounds, rest)

/-- The marks in front of digits and the bases that they set. -/
def bases : List (String × Nat) :=
  [("0b", 2), ("0o", 8), ("0x", 16)]

/-- The base of the digits that follow, and where they start. -/
def digitBase (text : List Char) : Nat × Rest text :=
  let found := bases.findSome? fun (mark, base) =>
    (token? mark text).map fun rest => (base, Shorter.weaken rest)
  found.getD (10, Rest.whole text)

/--
Check the digits at the start of a text, one by one: each of them must be one
of the base, and the number must not exceed a limit.  A number that does is
refused as a whole, where `after` stands.
-/
def checkDigits (base limit : Nat) (after : List Char) (number : Nat) :
    List Char → Except Fault Unit
  | [] => .ok ()
  | '_' :: rest => checkDigits base limit after number rest
  | letter :: rest =>
      match Hex.value? letter with
      | some digit =>
          if limit < number * base then
            .error ⟨.outOfBounds, after⟩
          else if base ≤ digit then
            .error ⟨.invalidDigit letter base, letter :: rest⟩
          else if limit < number * base + digit then
            .error ⟨.outOfBounds, after⟩
          else
            checkDigits base limit after (number * base + digit) rest
      | none => .ok ()

/-- Check an integer behind its sign and the mark of its base; `after` stands behind it. -/
def checkInteger (base limit : Nat) (after : List Char) (digits : List Char) : Except Fault Unit :=
  if startsWith (fun letter => letter = '_') digits then
    .error ⟨.leadingUnderscore, digits⟩
  else if startsWith isIntegral digits then
    checkDigits base limit after 0 digits
  else
    .error ⟨.expectedInteger, after⟩

/--
Skip an integer.  A suffix is looked for behind the first run of digits of any
base, so it is found behind binary and decimal digits only: the marks of the
other bases end that run.
-/
def skipInteger (text : List Char) : Except Fault (Shorter text) :=
  let negative := startsWith (fun letter => letter = '-') text
  let ⟨unsigned, unsignedLe⟩ := afterSign text
  let (base, ⟨digits, digitsLe⟩) := digitBase unsigned
  have dropped := length_dropWhile_le isIntegral unsigned
  match integerSuffix? (unsigned.dropWhile isIntegral), digits with
  | some (bounds, ⟨rest, restLt⟩), _ => do
      checkInteger base (bounds.limit negative) rest digits
      return ⟨rest, by omega⟩
  | none, [] => .error ⟨.expectedInteger, []⟩
  | none, first :: others => do
      let after := (first :: others).dropWhile isIntegral
      checkInteger base (Bounds.widest.limit negative) after (first :: others)
      return ⟨others.dropWhile isIntegral, by
        have othersLe := length_dropWhile_le isIntegral others
        simp only [List.length_cons] at digitsLe
        omega⟩

/-- Characters at the start of a text and what follows them. -/
structure Run (text : List Char) where
  letters : List Char
  rest : List Char
  fits : letters.length + rest.length ≤ text.length

/--
The characters of a decimal number without its underscores.  An underscore must
follow a digit or the mark of an exponent, with perhaps signs and further
underscores between.
-/
def decimalRun (free : Bool) : (text : List Char) → Except Fault (Run text)
  | [] => .ok ⟨[], [], by simp⟩
  | '_' :: rest =>
      if free then do
        let ⟨letters, after, fits⟩ ← decimalRun true rest
        return ⟨letters, after, by simp only [List.length_cons]; omega⟩
      else
        .error ⟨.floatUnderscore, '_' :: rest⟩
  | letter :: rest =>
      if isDecimal letter then do
        let freed := letter.isDigit || isExponentMark letter || (free && letter ≠ '.')
        let ⟨letters, after, fits⟩ ← decimalRun freed rest
        return ⟨letter :: letters, after, by simp only [List.length_cons]; omega⟩
      else
        .ok ⟨[], letter :: rest, by simp⟩

/-- Whether characters are an exponent, which may be missing. -/
def isExponent : List Char → Bool
  | [] => true
  | mark :: power =>
      let digits := (afterSign power).val
      isExponentMark mark && !digits.isEmpty && digits.all Char.isDigit

/--
Whether characters are a decimal number: a sign that may be missing, digits with
perhaps a point before, between or behind them, and an exponent.
-/
def isNumber (letters : List Char) : Bool :=
  let unsigned := (afterSign letters).val
  let whole := unsigned.takeWhile Char.isDigit
  match unsigned.dropWhile Char.isDigit with
  | '.' :: others =>
      let fraction := others.takeWhile Char.isDigit
      !(whole.isEmpty && fraction.isEmpty) && isExponent (others.dropWhile Char.isDigit)
  | exponent => !whole.isEmpty && isExponent exponent

def decimalSuffixes : List String :=
  ["f32", "f64"]

def afterDecimalSuffix (text : List Char) : Rest text :=
  let found := decimalSuffixes.findSome? fun suffix =>
    (keyword? suffix text).map Shorter.weaken
  found.getD (Rest.whole text)

/-- The words for an infinite number and for no number, without a sign. -/
def boundlessWords : List String :=
  ["inf", "inff32", "inff64", "NaN", "NaNf32", "NaNf64"]

def afterBoundless? (text : List Char) : Option (Shorter text) :=
  let ⟨unsigned, unsignedLe⟩ := afterSign text
  boundlessWords.findSome? fun word =>
    (keyword? word unsigned).map fun ⟨rest, shorter⟩ => ⟨rest, by omega⟩

def skipDecimal (text : List Char) : Except Fault (Shorter text) :=
  match afterBoundless? text with
  | some rest => .ok rest
  | none => do
      let run ← decimalRun false text
      match run with
      | ⟨[], _, _⟩ => .error ⟨.expectedFloat, text⟩
      | ⟨first :: others, behind, fits⟩ =>
          if isNumber (first :: others) then
            let ⟨rest, restLe⟩ := afterDecimalSuffix behind
            return ⟨rest, by simp only [List.length_cons] at fits; omega⟩
          else
            .error ⟨.expectedFloat, text⟩

/-- Whether a text starts with more characters of a decimal number than of an integer. -/
def opensDecimal (text : List Char) : Bool :=
  let unsigned := (afterSign text).val
  (unsigned.takeWhile isIntegral).length < (unsigned.takeWhile isDecimal).length

/--
Skip a number.  Where an integer is refused, a decimal number is taken if it
reaches at least as far.
-/
def skipNumber (text : List Char) : Except Fault (Shorter text) :=
  if opensDecimal text then
    skipDecimal text
  else
    match skipInteger text, skipDecimal text with
    | .ok rest, _ => .ok rest
    | .error fault, .ok rest =>
        if rest.val.length ≤ fault.rest.length then .ok rest else .error fault
    | .error fault, .error _ => .error fault

def startsNumber (letter : Char) : Bool :=
  letter.isDigit || isSign letter || letter = '.'

end Scan

end DataflowTyping
