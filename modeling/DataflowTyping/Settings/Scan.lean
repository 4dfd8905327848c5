import DataflowTyping.Settings.Malformed

/-!
# Blanks, words and identifiers

The readers of the settings text take the text that is left and give back the
text that is left after them.  Their types say that it has not become longer,
or that it has become shorter, which is why loops over a text end.
-/

namespace DataflowTyping

namespace Scan

/-- What is left of a text. -/
abbrev Rest (text : List Char) : Type :=
  { rest : List Char // rest.length ≤ text.length }

/-- What is left of a text after at least one character has been read. -/
abbrev Shorter (text : List Char) : Type :=
  { rest : List Char // rest.length < text.length }

def Rest.whole (text : List Char) : Rest text :=
  ⟨text, Nat.le_refl _⟩

def Rest.tail (first : Char) (text : List Char) : Rest (first :: text) :=
  ⟨text, Nat.le_succ _⟩

def Rest.behind (first : Char) {text : List Char} (rest : Rest text) : Shorter (first :: text) :=
  ⟨rest.val, Nat.lt_succ_of_le rest.property⟩

def Rest.andThen {text : List Char} (first : Rest text) (second : Rest first.val) : Rest text :=
  ⟨second.val, Nat.le_trans second.property first.property⟩

def Shorter.weaken {text : List Char} (shorter : Shorter text) : Rest text :=
  ⟨shorter.val, Nat.le_of_lt shorter.property⟩

def Shorter.behind (first : Char) {text : List Char} (shorter : Shorter text) :
    Shorter (first :: text) :=
  Rest.behind first (Shorter.weaken shorter)

def Shorter.andThen {text : List Char} (first : Shorter text) (second : Shorter first.val) :
    Shorter text :=
  ⟨second.val, Nat.lt_trans second.property first.property⟩

/-- A reader that passes over something without looking into it. -/
abbrev Skip : Type :=
  (text : List Char) → Except Fault (Shorter text)

theorem length_dropWhile_le (test : Char → Bool) (text : List Char) :
    (text.dropWhile test).length ≤ text.length :=
  (List.dropWhile_suffix test).length_le

def startsWith (test : Char → Bool) : List Char → Bool
  | [] => false
  | first :: _ => test first

/-- What follows a comment in which `depth` further ones are open, if all of them are closed. -/
def afterComment? (depth : Nat) : (text : List Char) → Option (Rest text)
  | [] => none
  | '/' :: '*' :: rest =>
      (afterComment? (depth + 1) rest).map fun ⟨after, shorter⟩ =>
        ⟨after, by simp only [List.length_cons]; omega⟩
  | '*' :: '/' :: rest =>
      match depth with
      | 0 => some ⟨rest, by simp only [List.length_cons]; omega⟩
      | depth + 1 =>
          (afterComment? depth rest).map fun ⟨after, shorter⟩ =>
            ⟨after, by simp only [List.length_cons]; omega⟩
  | _ :: rest =>
      (afterComment? depth rest).map fun ⟨after, shorter⟩ =>
        ⟨after, by simp only [List.length_cons]; omega⟩

/--
Skip white space and comments.  A comment runs from two slashes to the end of
the line, or from a slash and a star to a star and a slash; the latter kind may
be nested.
-/
def skipBlank (text : List Char) : Except Fault (Rest text) :=
  have dropped := length_dropWhile_le Letter.isBlank text
  match start : text.dropWhile Letter.isBlank with
  | '/' :: '/' :: rest =>
      have line := length_dropWhile_le (fun letter => letter ≠ '\n') rest
      have lengths := congrArg List.length start
      do
        let ⟨after, shorter⟩ ← skipBlank (rest.dropWhile fun letter => letter ≠ '\n')
        return ⟨after, by simp only [List.length_cons] at lengths; omega⟩
  | '/' :: '*' :: rest =>
      have lengths := congrArg List.length start
      match afterComment? 0 rest with
      | none => .error ⟨.unclosedComment, []⟩
      | some ⟨outside, inside⟩ => do
          let ⟨after, shorter⟩ ← skipBlank outside
          return ⟨after, by simp only [List.length_cons] at lengths; omega⟩
  | '/' :: letter :: rest => .error ⟨.unexpectedChar letter, rest⟩
  | ['/'] => .error ⟨.unexpectedEnd, []⟩
  | rest => .ok ⟨rest, start ▸ dropped⟩
termination_by text.length
decreasing_by
  all_goals
    simp only [List.length_cons] at lengths
    omega

def afterLetters? : List Char → (text : List Char) → Option (Rest text)
  | [], text => some ⟨text, Nat.le_refl _⟩
  | _ :: _, [] => none
  | letter :: letters, first :: text =>
      if letter = first then
        (afterLetters? letters text).map fun ⟨after, shorter⟩ =>
          ⟨after, by simp only [List.length_cons]; omega⟩
      else
        none

/-- What follows a token at the start of a text; the empty word is no token. -/
def token? (token : String) (text : List Char) : Option (Shorter text) :=
  match token.toList, text with
  | letter :: letters, first :: text =>
      if letter = first then
        (afterLetters? letters text).map fun ⟨after, shorter⟩ =>
          ⟨after, by simp only [List.length_cons]; omega⟩
      else
        none
  | _, _ => none

/-- What follows a keyword, which is a token that no letter of an identifier follows. -/
def keyword? (keyword : String) (text : List Char) : Option (Shorter text) :=
  (token? keyword text).filter fun rest => !startsWith Letter.continuesName rest.val

/-- Skip a comma with the blanks around it, if it is there. -/
def skipComma (text : List Char) : Except Fault (Bool × Rest text) := do
  let ⟨start, before⟩ ← skipBlank text
  match token? "," start with
  | none => return (false, ⟨start, before⟩)
  | some ⟨rest, shorter⟩ => do
      let ⟨after, behind⟩ ← skipBlank rest
      return (true, ⟨after, by omega⟩)

def skipColon (text : List Char) : Except Fault (Shorter text) := do
  let ⟨start, before⟩ ← skipBlank text
  match token? ":" start with
  | none => .error ⟨.expectedColon, start⟩
  | some ⟨rest, shorter⟩ => do
      let ⟨after, behind⟩ ← skipBlank rest
      return ⟨after, by omega⟩

/-- An identifier and what follows it. -/
structure Named (text : List Char) where
  name : List Char
  rest : List Char
  shorter : rest.length < text.length

/-- How texts of other kinds start that look like an identifier. -/
def literalOpenings : List String :=
  ["b\"", "b'", "br#", "br\"", "r\"", "r#\"", "r##"]

def opensLiteral (text : List Char) : Bool :=
  literalOpenings.any fun opening => opening.toList.isPrefixOf text

def opensRaw (text : List Char) : Bool :=
  ['r', '#'].isPrefixOf text

/-- A raw identifier, in which further characters are allowed. -/
def rawName? : (text : List Char) → Option (Named text)
  | 'r' :: '#' :: first :: others =>
      if Letter.isRaw first then
        some
          { name := first :: others.takeWhile Letter.isRaw
            rest := others.dropWhile Letter.isRaw
            shorter := by
              have dropped := length_dropWhile_le Letter.isRaw others
              simp only [List.length_cons]
              omega }
      else
        none
  | _ => none

/-- The longest run of identifier characters, from a character that may start one. -/
def plainName? : (text : List Char) → Option (Named text)
  | [] => none
  | first :: others =>
      if Letter.startsName first then
        some
          { name := first :: others.takeWhile Letter.continuesName
            rest := others.dropWhile Letter.continuesName
            shorter := by
              have dropped := length_dropWhile_le Letter.continuesName others
              simp only [List.length_cons]
              omega }
      else
        none

/-- An identifier, raw or plain, if there is one. -/
def name? (text : List Char) : Option (Named text) :=
  if opensLiteral text then none
  else if opensRaw text then rawName? text
  else plainName? text

/--
Read an identifier.  A plain one that would be longer if it were raw is
refused, since its raw form may have been meant.
-/
def identifier (text : List Char) : Except Fault (Named text) :=
  let rawRun := text.takeWhile Letter.isRaw
  match text with
  | [] => .error ⟨.unexpectedEnd, []⟩
  | first :: others =>
      if !Letter.startsName first && Letter.isRaw first then
        .error ⟨.invalidIdentifier rawRun, first :: others⟩
      else
        match name? (first :: others) with
        | none => .error ⟨.expectedIdentifier, first :: others⟩
        | some named =>
            if !opensRaw (first :: others) && named.name.length < rawRun.length then
              .error ⟨.invalidIdentifier rawRun, first :: others⟩
            else
              .ok named

end Scan

end DataflowTyping
