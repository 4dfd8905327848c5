import DataflowTyping.Settings.Number
import DataflowTyping.Settings.Quoted

/-!
# Values that are passed over

A settings text may hold fields that mean nothing here.  Their values are read
to find out where they end and are then forgotten.

Values may be nested, and the nesting is paid for from a budget: one unit
inside brackets, one more inside each item between them, and one inside an
option.  A value is read with the readers for what may be nested in it, which
have already been charged, so that the recursion is on the budget.
-/

namespace DataflowTyping

namespace Scan

/-- What the attributes of a text switch on. -/
structure Extensions where
  /-- An option may be written without parentheses. -/
  implicitSome : Bool := false
  /-- The record must be written with its name. -/
  explicitNames : Bool := false
  /-- A group in an option may be written without parentheses of its own. -/
  unwrapped : Bool := false

/--
Read items up to a closing bracket, with a comma after each but perhaps the
last, and pass a state through them.
-/
def items {State : Type} (close : String)
    (item : State → (text : List Char) → Except Fault (State × Shorter text))
    (state : State) (text : List Char) : Except Fault (State × Shorter text) := do
  let ⟨start, before⟩ ← skipBlank text
  match token? close start with
  | some ⟨rest, shorter⟩ => return (state, ⟨rest, by omega⟩)
  | none => do
      let (next, ⟨rest, shorter⟩) ← item state start
      let (comma, ⟨after, behind⟩) ← skipComma rest
      if comma then
        let (final, ⟨left, leftLt⟩) ← items close item next after
        return (final, ⟨left, by omega⟩)
      else
        match token? close after with
        | some ⟨left, leftLt⟩ => return (next, ⟨left, by omega⟩)
        | none => .error ⟨.expectedComma, after⟩
termination_by text.length

def skipItems (close : String) (item : Skip) (text : List Char) :
    Except Fault (Shorter text) := do
  let ((), rest) ← items close
    (fun () text => do
      let rest ← item text
      return ((), rest))
    () text
  return rest

/--
The readers for what is nested in a value, after one further unit has been
charged, after two, and so on, as far as the budget reaches.
-/
abbrev Deeper : Type :=
  List Skip

/-- A value that is charged one unit. -/
def skipCharged : Deeper → Skip
  | skip :: _, text => skip text
  | [], text => .error ⟨.nestedTooDeep, text⟩

def skipField : Deeper → Skip
  | skip :: _, text => do
      let named ← identifier text
      let ⟨start, before⟩ ← skipColon named.rest
      let ⟨rest, shorter⟩ ← skip start
      have nameLt := named.shorter
      return ⟨rest, by omega⟩
  | [], text => .error ⟨.nestedTooDeep, text⟩

def skipEntry (deeper : Deeper) : Skip := fun text => do
  let ⟨afterKey, keyLt⟩ ← skipCharged deeper text
  let ⟨start, before⟩ ← skipColon afterKey
  let ⟨rest, shorter⟩ ← skipCharged deeper start
  return ⟨rest, by omega⟩

/-- Skip what stands between brackets, behind the opening one. -/
def skipBracketed (close : String) (item : Deeper → Skip) : Deeper → Skip
  | _ :: inner, text => skipItems close (item inner) text
  | [], text => .error ⟨.nestedTooDeep, text⟩

/-- What parentheses hold, as far as it can be told without reading the values. -/
inductive Content where
  /-- Names with values. -/
  | fields
  /-- Several values, or any number of them if that does not matter. -/
  | elements
  /-- One value. -/
  | single

/-- Tell one value with a comma behind it from several, behind the comma. -/
def contentBehindComma (text : List Char) : Except Fault Content := do
  let ⟨start, _⟩ ← skipBlank text
  return if startsWith (fun letter => letter = ')') start then .single else .elements

/--
Tell what parentheses hold from the name they start with and what follows it:
a colon, a comma or the closing parenthesis.  Otherwise give back where the
search has come.
-/
def contentByName (text : List Char) : Except Fault (Content ⊕ List Char) := do
  let ⟨start, _⟩ ← skipBlank text
  match name? start with
  | some named => do
      let ⟨after, _⟩ ← skipBlank named.rest
      match after with
      | ':' :: _ => return .inl .fields
      | ',' :: rest => return .inl (← contentBehindComma rest)
      | ')' :: _ => return .inl .single
      | _ => return .inr after
  | none => return .inr start

/-- Skip a text of some kind if there is one; one that does not end is refused. -/
def skipClosed (reader : Skip) (text : List Char) : Except Fault (Rest text) :=
  match reader text with
  | .ok rest => .ok (Shorter.weaken rest)
  | .error fault =>
      if fault.cause = .expectedStringEnd ∨ fault.cause = .unexpectedEnd then .error fault
      else .ok (Rest.whole text)

def afterCharacter : (text : List Char) → Rest text
  | '\'' :: inside =>
      match skipCharacter inside with
      | .ok rest => Shorter.weaken (Shorter.behind '\'' rest)
      | .error _ => Rest.whole ('\'' :: inside)
  | text => Rest.whole text

/-- Skip blanks, and then a quoted character, a string and bytes, as far as they are there. -/
def skipCovered (text : List Char) : Except Fault (Rest text) := do
  let ⟨start, startLe⟩ ← skipBlank text
  let ⟨afterChar, charLe⟩ := afterCharacter start
  let ⟨afterString, stringLe⟩ ← skipClosed skipString afterChar
  let ⟨rest, bytesLe⟩ ← skipClosed skipBytes afterString
  return ⟨rest, by omega⟩

/--
Look for a comma before the closing parenthesis, with `depth` further brackets
open.  What stands in comments and between quotes does not count.
-/
def contentByComma (depth : Nat) (text : List Char) : Except Fault Content := do
  let ⟨bare, bareLe⟩ ← skipCovered text
  match bare, bareLe with
  | [], _ => .error ⟨.unexpectedEnd, []⟩
  | letter :: rest, letterLe =>
      have : rest.length < text.length := letterLe
      if letter = '(' || letter = '[' || letter = '\x7b' then
        contentByComma (depth + 1) rest
      else if letter = ')' || letter = ']' || letter = '\x7d' then
        match depth with
        | 0 => return .single
        | depth + 1 => contentByComma depth rest
      else if letter = ',' && depth = 0 then
        contentBehindComma rest
      else
        contentByComma depth rest
termination_by text.length

/-- Skip the fields or the elements behind an opening parenthesis. -/
def skipGroup (deeper : Deeper) (text : List Char) : Except Fault (Shorter text) := do
  match ← contentByName text with
  | .inl .fields => skipBracketed ")" skipField deeper text
  | _ => skipBracketed ")" skipCharged deeper text

/-- Skip a single value and the closing parenthesis behind it. -/
def skipSingle (deeper : Deeper) (text : List Char) : Except Fault (Shorter text) := do
  let ⟨rest, shorter⟩ ← skipCharged deeper text
  let (_, ⟨after, behind⟩) ← skipComma rest
  match token? ")" after with
  | some ⟨left, leftLt⟩ => return ⟨left, by omega⟩
  | none => .error ⟨.expectedOptionEnd, after⟩

/--
Skip the value of an option and the closing parenthesis, where groups may stand
without parentheses of their own; nothing at all is the empty group.
-/
def skipUnwrapped (deeper : Deeper) (text : List Char) : Except Fault (Shorter text) :=
  match deeper, token? ")" text with
  | _ :: _, some rest => .ok rest
  | _ :: inner, none => do
      let content ←
        match ← contentByName text with
        | .inl content => pure content
        | .inr start => contentByComma 0 start
      match content with
      | .fields => skipBracketed ")" skipField inner text
      | .elements => skipBracketed ")" skipCharged inner text
      | .single => skipSingle deeper text
  | [], _ => .error ⟨.nestedTooDeep, text⟩

/-- Skip what follows the word that announces an option. -/
def skipOption (extensions : Extensions) (deeper : Deeper) (text : List Char) :
    Except Fault (Rest text) := do
  let ⟨opening, before⟩ ← skipBlank text
  match token? "(" opening with
  | some ⟨inside, opened⟩ =>
      let ⟨start, startLe⟩ ← skipBlank inside
      let ⟨rest, shorter⟩ ←
        if extensions.unwrapped then skipUnwrapped deeper start else skipSingle deeper start
      return ⟨rest, by omega⟩
  | none =>
      if extensions.implicitSome then
        let ⟨rest, shorter⟩ ← skipCharged deeper opening
        return ⟨rest, by omega⟩
      else
        .error ⟨.expectedOption, opening⟩

/-- Skip a value that its first character tells apart. -/
def skipPlain (deeper : Deeper) : Skip
  | [] => .error ⟨.unexpectedEnd, []⟩
  | '(' :: inside => (skipGroup deeper inside).map (Shorter.behind '(')
  | '[' :: inside => (skipBracketed "]" skipCharged deeper inside).map (Shorter.behind '[')
  | '\x7b' :: inside =>
      (skipBracketed "\x7d" skipEntry deeper inside).map (Shorter.behind '\x7b')
  | '\'' :: inside => (skipCharacter inside).map (Shorter.behind '\'')
  | 'b' :: '\'' :: inside =>
      (skipByte inside).map fun rest => Shorter.behind 'b' (Shorter.behind '\'' rest)
  | first :: others =>
      if startsNumber first then skipNumber (first :: others)
      else if first = '"' || first = 'r' then skipString (first :: others)
      else if first = 'b' then skipBytes (first :: others)
      else .error ⟨.unexpectedChar first, first :: others⟩

def fixedWords : List String :=
  ["true", "false", "None"] ++ boundlessWords

/-- A value that is one of a few fixed words, or the empty group. -/
def afterFixed? (text : List Char) : Option (Shorter text) :=
  (fixedWords.findSome? fun word => keyword? word text).or (token? "()" text)

/-- Skip the group that may follow a name. -/
def skipNamed (deeper : Deeper) {text : List Char} (named : Named text) :
    Except Fault (Shorter text) := do
  have nameLt := named.shorter
  let ⟨start, before⟩ ← skipBlank named.rest
  match token? "(" start with
  | some ⟨inside, opened⟩ =>
      let ⟨rest, shorter⟩ ← skipGroup deeper inside
      return ⟨rest, by omega⟩
  | none => return ⟨start, by omega⟩

/-- Skip a value, given the readers for what is nested in it. -/
def skipWith (extensions : Extensions) (deeper : Deeper) : Skip := fun text =>
  match afterFixed? text, keyword? "Some" text, name? text with
  | some rest, _, _ => .ok rest
  | none, some ⟨start, announced⟩, _ => do
      let ⟨rest, shorter⟩ ← skipOption extensions deeper start
      return ⟨rest, by omega⟩
  | none, none, some named => skipNamed deeper named
  | none, none, none => skipPlain deeper text

/-- The readers that a budget reaches. -/
def readers (extensions : Extensions) : Nat → Deeper
  | 0 => []
  | budget + 1 =>
      let deeper := readers extensions budget
      skipWith extensions deeper :: deeper

/-- Skip a value with a budget for what is nested in it. -/
def skipValue (extensions : Extensions) (budget : Nat) : Skip :=
  skipWith extensions (readers extensions budget)

end Scan

end DataflowTyping
