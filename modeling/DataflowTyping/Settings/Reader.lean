import DataflowTyping.Settings
import DataflowTyping.Settings.Value

/-!
# Reading settings

A settings text is a record: perhaps some attributes, perhaps the name of the
record, and then its fields between parentheses.  A field that is missing has
its default, a field that is not known is passed over, and a known field must
not occur twice.
-/

namespace DataflowTyping

namespace Scan

/-- Switch on an extension by its name; one of them changes nothing here. -/
def Extensions.enable? (extensions : Extensions) (name : List Char) : Option Extensions :=
  match String.ofList name with
  | "implicit_some" => some { extensions with implicitSome := true }
  | "explicit_struct_names" => some { extensions with explicitNames := true }
  | "unwrap_variant_newtypes" => some { extensions with unwrapped := true }
  | "unwrap_newtypes" => some extensions
  | _ => none

/--
The fault of a text once one of several tokens was missing.  The others are
still taken where they stand, with the blanks behind them.
-/
def faultAmong (missing : Cause) : List String → List Char → Fault
  | [], text => ⟨missing, text⟩
  | token :: tokens, text =>
      match token? token text with
      | none => faultAmong missing tokens text
      | some ⟨rest, _⟩ =>
          match skipBlank rest with
          | .ok ⟨after, _⟩ => faultAmong missing tokens after
          | .error fault => fault

/-- Skip tokens with the blanks behind them. -/
def skipTokens (missing : Cause) : List String → (text : List Char) → Except Fault (Rest text)
  | [], text => .ok ⟨text, Nat.le_refl _⟩
  | token :: tokens, text =>
      match token? token text with
      | none => .error (faultAmong missing tokens text)
      | some ⟨rest, shorter⟩ => do
          let ⟨after, behind⟩ ← skipBlank rest
          let ⟨left, leftLe⟩ ← skipTokens missing tokens after
          return ⟨left, by omega⟩

/-- Read the names of extensions, with a comma after each but perhaps the last. -/
def extensionNames (extensions : Extensions) (text : List Char) :
    Except Fault (Extensions × Shorter text) := do
  let named ← identifier text
  have nameLt := named.shorter
  match extensions.enable? named.name with
  | none => .error ⟨.unknownExtension named.name, named.rest⟩
  | some enabled => do
      let (comma, ⟨after, behind⟩) ← skipComma named.rest
      if startsWith Letter.continuesName after then
        if comma then
          let (final, ⟨left, leftLt⟩) ← extensionNames enabled after
          return (final, ⟨left, by omega⟩)
        else
          .error ⟨.expectedComma, after⟩
      else
        return (enabled, ⟨after, by omega⟩)
termination_by text.length

/-- Read attributes as long as there are any. -/
def attributes (extensions : Extensions) (text : List Char) :
    Except Fault (Extensions × Rest text) := do
  if startsWith (fun letter => letter = '#') text then
    let ⟨names, opened⟩ ← skipTokens .expectedAttribute ["#", "!", "[", "enable", "("] text
    let (enabled, ⟨behind, shorter⟩) ← extensionNames extensions names
    let ⟨closed, closedLe⟩ ← skipTokens .expectedAttributeEnd [")", "]"] behind
    let ⟨after, afterLe⟩ ← skipBlank closed
    let (final, ⟨rest, restLe⟩) ← attributes enabled after
    return (final, ⟨rest, by omega⟩)
  else
    return (extensions, ⟨text, Nat.le_refl _⟩)
termination_by text.length

/-- Read the name of the record, which may be missing unless an attribute asks for it. -/
def skipRecordName (extensions : Extensions) (text : List Char) : Except Fault (Rest text) :=
  if !startsWith Letter.continuesName text then
    if extensions.explicitNames then .error ⟨.missingName, text⟩
    else .ok ⟨text, Nat.le_refl _⟩
  else
    match identifier text with
    | .error _ => .error ⟨.expectedOpening, text⟩
    | .ok named =>
        if named.name = Settings.recordName.toList then
          .ok ⟨named.rest, Nat.le_of_lt named.shorter⟩
        else
          .error ⟨.otherName named.name, named.rest⟩

def boolean (text : List Char) : Except Fault (Bool × Shorter text) :=
  match keyword? "true" text, keyword? "false" text with
  | some rest, _ => .ok (true, rest)
  | none, some rest => .ok (false, rest)
  | none, none => .error ⟨.expectedBoolean, text⟩

structure Fields where
  diagnostics : Option Bool := none
  warnOnClash : Option Bool := none

/-- The settings, with defaults for the fields that were not there. -/
def Fields.settings (fields : Fields) : Settings :=
  let defaults : Settings := {}
  { diagnostics := fields.diagnostics.getD defaults.diagnostics
    warnOnClash := fields.warnOnClash.getD defaults.warnOnClash }

/-- The units that nesting may cost in all. -/
def nestingLimit : Nat :=
  128

/-- Read one field; its value stands two units deep. -/
def field (extensions : Extensions) (fields : Fields) (text : List Char) :
    Except Fault (Fields × Shorter text) := do
  let named ← identifier text
  have nameLt := named.shorter
  match String.ofList named.name with
  | "diagnostics" =>
      if fields.diagnostics.isSome then
        .error ⟨.duplicateField named.name, named.rest⟩
      else
        let ⟨start, before⟩ ← skipColon named.rest
        let (value, ⟨rest, shorter⟩) ← boolean start
        return ({ fields with diagnostics := some value }, ⟨rest, by omega⟩)
  | "warn_on_ambiguous_join" =>
      if fields.warnOnClash.isSome then
        .error ⟨.duplicateField named.name, named.rest⟩
      else
        let ⟨start, before⟩ ← skipColon named.rest
        let (value, ⟨rest, shorter⟩) ← boolean start
        return ({ fields with warnOnClash := some value }, ⟨rest, by omega⟩)
  | _ => do
      let ⟨start, before⟩ ← skipColon named.rest
      let ⟨rest, shorter⟩ ← skipValue extensions (nestingLimit - 2) start
      return (fields, ⟨rest, by omega⟩)

def document (text : List Char) : Except Fault Settings := do
  let ⟨start, _⟩ ← skipBlank text
  let (extensions, ⟨record, _⟩) ← attributes {} start
  let ⟨unnamed, _⟩ ← skipRecordName extensions record
  let ⟨opening, _⟩ ← skipBlank unnamed
  match token? "(" opening with
  | none => .error ⟨.expectedOpening, opening⟩
  | some ⟨inside, _⟩ => do
      let (fields, ⟨outside, _⟩) ← items ")" (field extensions) {} inside
      let ⟨rest, _⟩ ← skipBlank outside
      if rest.isEmpty then
        return fields.settings
      else
        .error ⟨.trailingText, rest⟩

end Scan

def Settings.ofText (text : String) : Except Malformed Settings :=
  match Scan.document text.toList with
  | .ok settings => .ok settings
  | .error fault => .error (fault.locate text.toList)

end DataflowTyping
