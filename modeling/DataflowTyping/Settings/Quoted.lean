import DataflowTyping.Hex
import DataflowTyping.Settings.Scan

/-!
# Quoted texts

Strings, characters and bytes stand between quotes.  A backslash starts an
escape, except in a raw text, which ends at a quote with as many hash signs
behind it as stood before its opening quote.
-/

namespace DataflowTyping

namespace Scan

/-- What stands between quotes. -/
inductive Quoted where
  | string
  | character
  /-- Any number of bytes. -/
  | bytes
  | byte
  deriving DecidableEq

/-- Characters that stand for one character behind a backslash. -/
def escapable : List Char :=
  ['n', 'r', 't', '0', '"', '\'', '\\']

def hexadecimal : (text : List Char) → Except Fault (Nat × Rest text)
  | [] => .error ⟨.unexpectedEnd, []⟩
  | letter :: rest =>
      match Hex.value? letter with
      | some value => .ok (value, Rest.tail letter rest)
      | none => .error ⟨.notHexadecimal, rest⟩

/-- Read a byte that is written as two digits. -/
def writtenByte (text : List Char) : Except Fault (UInt8 × Rest text) := do
  let (high, between) ← hexadecimal text
  let (low, rest) ← hexadecimal between.val
  return (UInt8.ofNat (16 * high + low), Rest.andThen between rest)

def isEncoded (bytes : List UInt8) : Bool :=
  (String.fromUTF8? ⟨bytes.toArray⟩).isSome

/-- Skip further bytes, at most `left` of them, until they encode a character. -/
def skipEncoded (bytes : List UInt8) : Nat → (text : List Char) → Except Fault (Rest text)
  | 0, text => .error ⟨.notEncoded, text⟩
  | left + 1, text =>
      match token? "\\x" text with
      | some ⟨start, shorter⟩ => do
          let (byte, ⟨rest, restLe⟩) ← writtenByte start
          if isEncoded (bytes ++ [byte]) then
            return ⟨rest, by omega⟩
          else
            let ⟨after, afterLe⟩ ← skipEncoded (bytes ++ [byte]) left rest
            return ⟨after, by omega⟩
      | none => .error ⟨.notEncoded, text⟩

/-- Read the number of a character up to the closing brace, with at most `left` digits. -/
def codePoint (number : Nat) : Nat → (text : List Char) → Except Fault (Nat × Rest text)
  | 0, text => .ok (number, ⟨text, Nat.le_refl _⟩)
  | left + 1, text =>
      if startsWith (fun letter => letter = '\x7d') text then
        .ok (number, ⟨text, Nat.le_refl _⟩)
      else do
        let (digit, ⟨rest, restLe⟩) ← hexadecimal text
        let (final, ⟨after, afterLe⟩) ← codePoint (16 * number + digit) left rest
        return (final, ⟨after, by omega⟩)

/-- Skip the number of a character, with one to six digits between braces. -/
def skipCodePoint (text : List Char) : Except Fault (Rest text) :=
  match token? "\x7b" text with
  | some ⟨start, opened⟩ =>
      if startsWith (fun letter => letter = '\x7d') start then
        .error ⟨.missingDigits, start⟩
      else do
        let (number, ⟨close, closeLe⟩) ← codePoint 0 6 start
        match token? "\x7d" close with
        | some ⟨rest, closed⟩ =>
            if number.isValidChar then return ⟨rest, by omega⟩
            else .error ⟨.notCharacter, rest⟩
        | none => .error ⟨.unclosedBrace, close⟩
  | none => .error ⟨.missingBrace, text⟩

/-- Skip a byte that is written behind a backslash and an x. -/
def skipWrittenByte (quoted : Quoted) (text : List Char) : Except Fault (Rest text) := do
  let (byte, rest) ← writtenByte text
  if byte < 128 ∨ quoted = .bytes ∨ quoted = .byte then
    return rest
  else
    let after ← skipEncoded [byte] (if quoted = .string then 3 else 0) rest.val
    return Rest.andThen rest after

/-- Skip an escape, behind its backslash. -/
def skipEscape (quoted : Quoted) : (text : List Char) → Except Fault (Shorter text)
  | [] => .error ⟨.unexpectedEnd, []⟩
  | 'x' :: start => (skipWrittenByte quoted start).map (Rest.behind 'x')
  | 'u' :: start => do
      let rest ← skipCodePoint start
      if quoted = .byte then
        .error ⟨.characterInByte, rest.val⟩
      else
        return Rest.behind 'u' rest
  | letter :: rest =>
      if letter ∈ escapable then .ok (Rest.behind letter (Rest.whole rest))
      else .error ⟨.unknownEscape, rest⟩

/-- The first double quote or backslash, and what follows it. -/
def firstMark? : (text : List Char) → Option (Char × Shorter text)
  | [] => none
  | first :: others =>
      if first = '"' || first = '\\' then
        some (first, Rest.behind first (Rest.whole others))
      else
        (firstMark? others).map fun (mark, rest) => (mark, Shorter.behind first rest)

/--
Skip to the end of a text in double quotes.  Where it starts and behind each
escape, a quote must follow somewhere.
-/
def skipEscaped (quoted : Quoted) (text : List Char) : Except Fault (Shorter text) :=
  match firstMark? text with
  | some ('"', rest) => .ok rest
  | some (_, escape) =>
      if escape.val.contains '"' then do
        let resumed ← skipEscape quoted escape.val
        let rest ← skipEscaped quoted resumed.val
        return Shorter.andThen (Shorter.andThen escape resumed) rest
      else
        .error ⟨.expectedStringEnd, text⟩
  | none => .error ⟨.expectedStringEnd, text⟩
termination_by text.length
decreasing_by exact Nat.lt_trans resumed.property escape.property

/-- What follows the first place where some characters stand in a text. -/
def afterFirst? (letters : List Char) : (text : List Char) → Option (Rest text)
  | [] => none
  | first :: others =>
      match afterLetters? letters (first :: others) with
      | some rest => some rest
      | none =>
          (afterFirst? letters others).map fun ⟨after, shorter⟩ =>
            ⟨after, by simp only [List.length_cons]; omega⟩

/-- Skip a raw text, from its hash signs on. -/
def skipRaw (missing : Cause) (text : List Char) : Except Fault (Shorter text) :=
  have dropped := length_dropWhile_le (fun letter => letter = '#') text
  match token? "\"" (text.dropWhile fun letter => letter = '#') with
  | some ⟨inside, opened⟩ =>
      match afterFirst? ('"' :: text.takeWhile fun letter => letter = '#') inside with
      | some ⟨rest, restLe⟩ => .ok ⟨rest, by omega⟩
      | none => .error ⟨.expectedStringEnd, inside⟩
  | none => .error ⟨missing, text.dropWhile fun letter => letter = '#'⟩

/-- Skip the closing quote of a character or a byte. -/
def closeQuote (missing : Cause) (text : List Char) : Except Fault (Shorter text) :=
  match token? "'" text with
  | some rest => .ok rest
  | none => .error ⟨missing, text⟩

def skipQuotedEscape (quoted : Quoted) (missing : Cause) (text : List Char) :
    Except Fault (Shorter text) := do
  let close ← skipEscape quoted text
  let rest ← closeQuote missing close.val
  return Shorter.andThen close rest

/-- Skip a character, behind its opening quote. -/
def skipCharacter : (text : List Char) → Except Fault (Shorter text)
  | [] => .error ⟨.unexpectedEnd, []⟩
  | '\\' :: escape =>
      (skipQuotedEscape .character .expectedChar escape).map (Shorter.behind '\\')
  | letter :: close =>
      (closeQuote .expectedChar close).map (Shorter.behind letter)

/-- Skip a byte, behind its opening quote; it is written as a character below 128. -/
def skipByte : (text : List Char) → Except Fault (Shorter text)
  | [] => .error ⟨.unexpectedEnd, []⟩
  | '\\' :: escape =>
      (skipQuotedEscape .byte .expectedByte escape).map (Shorter.behind '\\')
  | letter :: close =>
      if letter.toNat < 128 then
        (closeQuote .expectedByte close).map (Shorter.behind letter)
      else
        .error ⟨.expectedByte, close⟩

def skipString : (text : List Char) → Except Fault (Shorter text)
  | '"' :: inside => (skipEscaped .string inside).map (Shorter.behind '"')
  | 'r' :: inside => (skipRaw .expectedString inside).map (Shorter.behind 'r')
  | text => .error ⟨.expectedString, text⟩

def skipBytes : (text : List Char) → Except Fault (Shorter text)
  | 'b' :: '"' :: inside =>
      (skipEscaped .bytes inside).map fun rest => Shorter.behind 'b' (Shorter.behind '"' rest)
  | 'b' :: 'r' :: inside =>
      (skipRaw .expectedBytes inside).map fun rest => Shorter.behind 'b' (Shorter.behind 'r' rest)
  | text => .error ⟨.expectedBytes, text⟩

end Scan

end DataflowTyping
