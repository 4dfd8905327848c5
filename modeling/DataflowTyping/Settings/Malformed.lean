import DataflowTyping.Settings.Letter

/-!
# Why a settings text is refused

A fault is a cause and the text that was left when it was met.  The place that
is shown follows from how much of the whole text had been read by then.
-/

namespace DataflowTyping

/-- What is wrong with a settings text. -/
inductive Cause where
  | unexpectedEnd
  | unexpectedChar (letter : Char)
  | unclosedComment
  | expectedIdentifier
  /-- The run of characters would be an identifier only in its raw form. -/
  | invalidIdentifier (run : List Char)
  | expectedAttribute
  | expectedAttributeEnd
  | unknownExtension (name : List Char)
  | expectedComma
  | expectedColon
  | expectedOpening
  /-- The name before the fields was asked for and is missing. -/
  | missingName
  | otherName (found : List Char)
  | duplicateField (name : List Char)
  | expectedBoolean
  | expectedOption
  | expectedOptionEnd
  | expectedInteger
  | leadingUnderscore
  | invalidDigit (letter : Char) (base : Nat)
  | outOfBounds
  | expectedFloat
  | floatUnderscore
  | expectedString
  | expectedStringEnd
  | expectedBytes
  | expectedChar
  | expectedByte
  | unknownEscape
  | notHexadecimal
  /-- The bytes written one by one are not the bytes of one character. -/
  | notEncoded
  | missingBrace
  | missingDigits
  | unclosedBrace
  /-- The number in braces is not the number of a character. -/
  | notCharacter
  | characterInByte
  | nestedTooDeep
  | trailingText
  deriving DecidableEq

/-- The name that may stand before the fields of the settings. -/
def Settings.recordName : String :=
  "ResolverConfig"

def Cause.message : Cause → String
  | unexpectedEnd => "Unexpected end of RON"
  | unexpectedChar letter => "Unexpected char '" ++ Letter.shown letter ++ "'"
  | unclosedComment => "Unclosed block comment"
  | expectedIdentifier => "Expected identifier"
  | invalidIdentifier run =>
      "Found invalid std identifier \"" ++ Letter.shownRun run ++
        "\", try the raw identifier " ++ Letter.shownName run ++ " instead"
  | expectedAttribute => "Expected an `#![enable(...)]` attribute"
  | expectedAttributeEnd => "Expected closing `)]` after the enable attribute"
  | unknownExtension name => "No RON extension named " ++ Letter.shownName name
  | expectedComma => "Expected comma"
  | expectedColon => "Expected colon"
  | expectedOpening => "Expected opening `(` for struct `" ++ Settings.recordName ++ "`"
  | missingName =>
      "Expected the explicit struct name `" ++ Settings.recordName ++ "`, but none was found"
  | otherName found =>
      "Expected struct `" ++ Settings.recordName ++ "` but found " ++ Letter.shownName found
  | duplicateField name =>
      "Unexpected duplicate field named " ++ Letter.shownName name ++ " in `" ++
        Settings.recordName ++ "`"
  | expectedBoolean => "Expected boolean"
  | expectedOption => "Expected option"
  | expectedOptionEnd => "Expected closing `)`"
  | expectedInteger => "Expected integer"
  | leadingUnderscore => "Unexpected leading underscore in a number"
  | invalidDigit letter base =>
      "Invalid digit '" ++ Letter.shown letter ++ "' for base " ++ toString base ++ " integers"
  | outOfBounds => "Integer is out of bounds"
  | expectedFloat => "Expected float"
  | floatUnderscore => "Unexpected underscore in float"
  | expectedString => "Expected string"
  | expectedStringEnd => "Expected end of string"
  | expectedBytes => "Expected byte string"
  | expectedChar => "Expected char"
  | expectedByte => "Expected byte literal"
  | unknownEscape => "Unknown escape character"
  | notHexadecimal => "Non-hex digit found"
  | notEncoded => "Not a valid byte-escaped Unicode character"
  | missingBrace => "Missing \x7b in Unicode escape"
  | missingDigits => "Expected 1-6 digits, got 0 digits in Unicode escape"
  | unclosedBrace => "No \x7d at the end of Unicode escape"
  | notCharacter => "Not a valid Unicode-escaped character"
  | characterInByte => "Unexpected Unicode escape in byte literal"
  | nestedTooDeep =>
      "Exceeded recursion limit, try increasing `ron::Options::recursion_limit` and using " ++
        "`serde_stacker` to protect against a stack overflow"
  | trailingText => "Non-whitespace trailing characters"

/-- A cause and the text that was left when it was met. -/
structure Fault where
  cause : Cause
  rest : List Char
  deriving DecidableEq

/-- A cause and its place in a text, with lines and columns from one. -/
structure Malformed where
  line : Nat
  column : Nat
  cause : Cause
  deriving DecidableEq

def Fault.locate (fault : Fault) (text : List Char) : Malformed :=
  let read := text.take (text.length - fault.rest.length)
  { line := read.count '\n' + 1
    column := (read.reverse.takeWhile fun letter => letter ≠ '\n').length + 1
    cause := fault.cause }

def Malformed.message (malformed : Malformed) : String :=
  toString malformed.line ++ ":" ++ toString malformed.column ++ ": " ++ malformed.cause.message

end DataflowTyping
