import DataflowTyping.Stored.Codec

/-!
# Storing and reading back

A part of a graph that is stored can be read back.  There are many more data that
can be read than data that are written: a structure may be given as a list, its
fields may stand in any order and among others, a tag may have nothing stored under
it, an identifier may be in upper case, and settings may be left out.  Whatever is
read is written in one form, which stays the same when it is read and written again.
-/

namespace DataflowTyping

/-- What is stored is read back. -/
class LawfulStored (Value : Type) [Stored Value] : Prop where
  decode?_encode (value : Value) : decode? (encode value) = some value

attribute [simp] LawfulStored.decode?_encode

namespace Stored

/-- What is written of the value that was read. -/
def rewritten? (Value : Type) [Stored Value] (data : Data) : Option Data :=
  (decode? data : Option Value).map encode

/-- Values are read back, and data that can be read have a form that is read in the same way. -/
structure RoundTrips (Value : Type) [Stored Value] : Prop where
  read_written (value : Value) : decode? (encode value) = some value
  read_rewritten {data written : Data} (isWritten : rewritten? Value data = some written) :
    (decode? written : Option Value) = decode? data
  /-- The form stays as it is when it is read and written again. -/
  rewritten_rewritten {data written : Data} (isWritten : rewritten? Value data = some written) :
    rewritten? Value written = some written

theorem roundTrips (Value : Type) [Stored Value] [LawfulStored Value] : RoundTrips Value where
  read_written := LawfulStored.decode?_encode
  read_rewritten {data written} isWritten := by
    obtain ⟨value, isRead, rfl⟩ := Option.map_eq_some_iff.mp isWritten
    rw [isRead, LawfulStored.decode?_encode]
  rewritten_rewritten {data written} isWritten := by
    obtain ⟨value, -, rfl⟩ := Option.map_eq_some_iff.mp isWritten
    rw [rewritten?, LawfulStored.decode?_encode, Option.map_some]

/-- A tag with nothing stored under it is read like the tag alone. -/
def ReadsBareTags (Value : Type) [Stored Value] : Prop :=
  ∀ tag, (decode? (.record [(tag, .null)]) : Option Value) = decode? (.text tag)

/-- A record that holds each field once, among others, is read like the list of the fields. -/
def ReadsFields (Value : Type) [Stored Value] (names : List String) : Prop :=
  ∀ entries values, names.map (Data.valuesOf entries) = values.map ([·]) →
    (decode? (.record entries) : Option Value) = decode? (.list values)

/-- Letters in upper case are read like letters in lower case. -/
def ReadsAnyCase (Value : Type) [Stored Value] : Prop :=
  ∀ text : String, (decode? (.text text.toLower) : Option Value) = decode? (.text text)

end Stored

open Stored

/-! ### Fields -/

namespace Data

variable {names : List String} {values : List Data} {entries : List (String × Data)}
  {name other : String}

@[simp]
theorem valuesOf_cons_self (value : Data) :
    valuesOf ((name, value) :: entries) name = value :: valuesOf entries name := by
  simp [valuesOf]

@[simp]
theorem valuesOf_cons_of_ne (differs : other ≠ name) (value : Data) :
    valuesOf ((other, value) :: entries) name = valuesOf entries name := by
  simp [valuesOf, differs]

/-- Under names that are all distinct, each value is found under its own name only. -/
theorem map_valuesOf_zip (distinct : names.Nodup) (sameLength : values.length = names.length) :
    names.map (valuesOf (names.zip values)) = values.map ([·]) := by
  induction names generalizing values with
  | nil => rw [List.length_eq_zero_iff.mp sameLength, List.map_nil, List.map_nil]
  | cons name names ih =>
      obtain ⟨value, values, rfl⟩ := List.exists_cons_of_length_eq_add_one sameLength
      obtain ⟨isNew, distinct⟩ := List.nodup_cons.mp distinct
      have absent : valuesOf (names.zip values) name = [] := by
        simp only [valuesOf, List.map_eq_nil_iff, List.filter_eq_nil_iff, decide_eq_true_eq]
        rintro ⟨other, value⟩ isEntry rfl
        exact isNew (List.of_mem_zip isEntry).1
      have others : names.map (valuesOf ((name, value) :: names.zip values)) =
          names.map (valuesOf (names.zip values)) := by
        refine List.map_congr_left fun other isOther => valuesOf_cons_of_ne ?_ value
        rintro rfl
        exact isNew isOther
      rw [List.zip_cons_cons, List.map_cons, List.map_cons, valuesOf_cons_self, absent, others,
        ih distinct (Nat.succ.inj sameLength)]

theorem optionalFields?_record (found : names.map (valuesOf entries) = values.map ([·])) :
    (record entries).optionalFields? names = some (values.map some) := by
  rw [optionalFields?]
  induction names generalizing values with
  | nil =>
      rw [List.map_eq_nil_iff.mp found.symm]
      rfl
  | cons name names ih =>
      cases values with
      | nil => contradiction
      | cons value values =>
          obtain ⟨first, others⟩ := List.cons_eq_cons.mp found
          rw [List.mapM_cons, ih others, first]
          rfl

theorem optionalFields?_list (sameLength : values.length = names.length) :
    (list values).optionalFields? names = some (values.map some) := by
  simp [optionalFields?, sameLength]

theorem optionalFields?_zip (distinct : names.Nodup) (sameLength : values.length = names.length) :
    (record (names.zip values)).optionalFields? names = some (values.map some) :=
  optionalFields?_record (map_valuesOf_zip distinct sameLength)

theorem mapM_some {Value : Type} (values : List Value) : values.mapM some = some values :=
  (List.mapM_pure (m := Option)).trans (congrArg some (List.map_id values))

end Data

namespace Layout

variable {Value : Type} (layout : Layout Value)

theorem encode_stored (value : Value) :
    layout.stored.encode value = .record (layout.names.zip (layout.write value)) :=
  rfl

theorem decode?_stored (data : Data) :
    layout.stored.decode? data = (data.optionalFields? layout.names).bind layout.read? :=
  rfl

/-- A structure is read back if its fields are. -/
theorem lawful (reads : ∀ value, layout.read? ((layout.write value).map some) = some value) :
    @LawfulStored Value layout.stored := by
  refine @LawfulStored.mk Value layout.stored fun value => ?_
  rw [decode?_stored, encode_stored,
    Data.optionalFields?_zip layout.distinct (layout.length_write value), Option.bind_some, reads]

theorem readsFields : @ReadsFields Value layout.stored layout.names := by
  intro entries values found
  have sameLength : values.length = layout.names.length := by
    simpa using (congrArg List.length found).symm
  rw [decode?_stored, decode?_stored, Data.optionalFields?_record found,
    Data.optionalFields?_list sameLength]

end Layout

/-! ### Letter case -/

namespace Hex

/-- What holds of all letters that stay in lower case, and of the capitals, holds of all. -/
theorem forall_of_capitals {holds : Char → Prop}
    (unchanged : ∀ letter : Char, letter.toLower = letter → holds letter)
    (capitals : ∀ index : Fin 26, holds (Char.ofNat (65 + index))) (letter : Char) :
    holds letter := by
  by_cases isCapital : 65 ≤ letter.toNat ∧ letter.toNat ≤ 90
  · have place : 65 + (letter.toNat - 65) = letter.toNat := Nat.add_sub_cancel' isCapital.1
    have holdsThere := capitals ⟨letter.toNat - 65, by omega⟩
    rwa [place, Char.ofNat_toNat] at holdsThere
  · exact unchanged letter (dif_neg isCapital)

theorem toLower_toLower (letter : Char) : letter.toLower.toLower = letter.toLower := by
  induction letter using forall_of_capitals with
  | unchanged letter same => rw [same, same]
  | capitals index =>
      revert index
      decide

/-- What is not a letter is the lower case of nothing else. -/
theorem toLower_eq_iff {letter mark : Char} (noLetter : mark.isAlpha = false) :
    letter.toLower = mark ↔ letter = mark := by
  have differs {other : Char} (isLetter : other.isAlpha = true) : other ≠ mark := by
    rintro rfl
    exact Bool.noConfusion (isLetter.symm.trans noLetter)
  induction letter using forall_of_capitals with
  | unchanged letter same => rw [same]
  | capitals index =>
      have areLetters : ∀ index : Fin 26, (Char.ofNat (65 + index)).isAlpha = true ∧
          (Char.ofNat (65 + index)).toLower.isAlpha = true := by
        decide
      obtain ⟨isLetter, isLetterBelow⟩ := areLetters index
      exact iff_of_false (differs isLetterBelow) (differs isLetter)

theorem value?_toLower (letter : Char) : value? letter.toLower = value? letter := by
  induction letter using forall_of_capitals with
  | unchanged letter same => rw [same]
  | capitals index =>
      revert index
      decide

theorem push_toLower (number : Nat) (letter : Char) :
    push number letter.toLower = push number letter := by
  rw [push, push, value?_toLower]

theorem number?_map_toLower (digits : List Char) :
    number? (digits.map Char.toLower) = number? digits := by
  simp only [number?, List.foldlM_map, push_toLower]

end Hex

namespace Uuid

theorem ofDigits?_map_toLower (digits : List Char) :
    ofDigits? (digits.map Char.toLower) = ofDigits? digits := by
  rw [ofDigits?, ofDigits?, List.length_map, Hex.number?_map_toLower]

theorem dehyphenate?_map_toLower (widths : List Nat) (letters : List Char) :
    dehyphenate? widths (letters.map Char.toLower) =
      (dehyphenate? widths letters).map (List.map Char.toLower) := by
  induction widths generalizing letters with
  | nil => rfl
  | cons width widths ih =>
      simp only [dehyphenate?, ← List.map_drop, ← List.map_take]
      cases letters.drop width with
      | nil => rfl
      | cons letter rest =>
          by_cases isHyphen : letter = '-'
          · have lowerHyphen : Char.toLower '-' = '-' := rfl
            simp only [isHyphen, List.map_cons, lowerHyphen, ih, Option.map_map]
            congr 1
            funext groups
            exact List.map_append.symm
          · have noHyphen : letter.toLower ≠ '-' := mt (Hex.toLower_eq_iff rfl).mp isHyphen
            simp [isHyphen, noHyphen]

theorem ofGroups?_map_toLower (letters : List Char) :
    ofGroups? (letters.map Char.toLower) = ofGroups? letters := by
  rw [ofGroups?, ofGroups?, dehyphenate?_map_toLower, Option.bind_map]
  exact congrArg _ (funext ofDigits?_map_toLower)

theorem isPrefixOf?_map_toLower {marks : List Char}
    (noLetters : ∀ mark ∈ marks, mark.isAlpha = false) (letters : List Char) :
    marks.isPrefixOf? (letters.map Char.toLower) =
      (marks.isPrefixOf? letters).map (List.map Char.toLower) := by
  induction marks generalizing letters with
  | nil => rfl
  | cons mark marks ih =>
      cases letters with
      | nil => rfl
      | cons letter letters =>
          obtain ⟨noLetter, noLetters⟩ := List.forall_mem_cons.mp noLetters
          have same : mark = letter.toLower ↔ mark = letter :=
            eq_comm.trans ((Hex.toLower_eq_iff noLetter).trans eq_comm)
          change (if mark == letter.toLower then marks.isPrefixOf? (letters.map Char.toLower)
              else none) =
            (if mark == letter then marks.isPrefixOf? letters else none).map (List.map Char.toLower)
          simp only [beq_iff_eq, same, ih noLetters]
          split <;> rfl

theorem unwrap?_map_toLower {wrapping : List Char × List Char}
    (noLetters : ∀ mark ∈ wrapping.2, mark.isAlpha = false) (letters : List Char) :
    unwrap? wrapping (letters.map Char.toLower) =
      (unwrap? wrapping letters).map (List.map Char.toLower) := by
  have noLettersBack : ∀ mark ∈ wrapping.2.reverse, mark.isAlpha = false :=
    fun mark isMark => noLetters mark (List.mem_reverse.mp isMark)
  have twice : Char.toLower ∘ Char.toLower = Char.toLower :=
    funext Hex.toLower_toLower
  have fromBack (rest : List Char) : wrapping.2.isSuffixOf? rest =
      (wrapping.2.reverse.isPrefixOf? rest.reverse).map List.reverse := rfl
  simp only [unwrap?, ← List.map_take, ← List.map_drop, List.map_map, twice]
  split
  · simp only [fromBack, ← List.map_reverse, isPrefixOf?_map_toLower noLettersBack,
      Option.map_map]
    congr 1
    funext groups
    exact List.map_reverse.symm
  · rfl

theorem ofWrapped?_map_toLower (letters : List Char) :
    ofWrapped? (letters.map Char.toLower) = ofWrapped? letters := by
  have noLetters : ∀ wrapping ∈ wrappings, ∀ mark ∈ wrapping.2, mark.isAlpha = false := by
    simp only [wrappings, List.forall_mem_cons]
    exact ⟨⟨rfl, nofun⟩, nofun, nofun⟩
  have same : ∀ wrapping ∈ wrappings,
      (unwrap? wrapping (letters.map Char.toLower)).bind ofGroups? =
        (unwrap? wrapping letters).bind ofGroups? := by
    intro wrapping isWrapping
    rw [unwrap?_map_toLower (noLetters wrapping isWrapping), Option.bind_map]
    exact congrArg _ (funext ofGroups?_map_toLower)
  simp only [wrappings, List.forall_mem_cons] at same
  obtain ⟨braced, urn, -⟩ := same
  simp only [ofWrapped?, wrappings, List.findSome?_cons, List.findSome?_nil, braced, urn]

/-- An identifier may be given in lower or in upper case. -/
theorem ofText?_toLower (text : String) : ofText? text.toLower = ofText? text := by
  have lower : text.toLower.toList = text.toList.map Char.toLower := String.toList_map
  rw [ofText?, ofText?, lower, ofGroups?_map_toLower, ofWrapped?_map_toLower,
    ofDigits?_map_toLower]

end Uuid

/-! ### What is stored is read back -/

instance : LawfulStored Bool where
  decode?_encode _ := rfl

instance : LawfulStored String where
  decode?_encode _ := rfl

instance : LawfulStored UInt8 where
  decode?_encode value := by
    have small : (value.toNat : Int) < 256 := Int.ofNat_lt.mpr value.toNat_lt
    simp [encode, decode?, small]

instance {Value : Type} [Stored Value] [LawfulStored Value] : LawfulStored (List Value) where
  decode?_encode values := by
    have each : (decode? ∘ encode : Value → Option Value) = some :=
      funext LawfulStored.decode?_encode
    change (values.map encode).mapM decode? = some values
    rw [List.mapM_map, each, Data.mapM_some]

instance : LawfulStored Uuid where
  decode?_encode := Uuid.ofText?_text

instance : LawfulStored NodeId where
  decode?_encode _ := congrArg (Option.map NodeId.mk) (LawfulStored.decode?_encode _)

instance : LawfulStored PortId where
  decode?_encode _ := congrArg (Option.map PortId.mk) (LawfulStored.decode?_encode _)

instance : LawfulStored LinkId where
  decode?_encode _ := congrArg (Option.map LinkId.mk) (LawfulStored.decode?_encode _)

instance : LawfulStored Shape where
  decode?_encode := Shape.ofTag?_tag

instance : LawfulStored Direction where
  decode?_encode := Direction.ofTag?_tag

instance : LawfulStored Category where
  decode?_encode := Category.ofTag?_tag

instance : LawfulStored Inference where
  decode?_encode
    | .fixed => rfl
    | .arithmetic _ => rfl

instance : LawfulStored Settings :=
  Settings.layout.lawful fun _ => by simp [Settings.layout, orDefault?]

instance : LawfulStored Port :=
  Port.layout.lawful fun _ => by simp [Port.layout]

instance : LawfulStored NodeKind :=
  NodeKind.layout.lawful fun _ => by simp [NodeKind.layout]

instance : LawfulStored Node :=
  Node.layout.lawful fun _ => by simp [Node.layout]

instance : LawfulStored Endpoint :=
  Endpoint.layout.lawful fun _ => by simp [Endpoint.layout]

instance : LawfulStored Link :=
  Link.layout.lawful fun _ => by simp [Link.layout]

/-! ### Other forms -/

theorem Shape.readsBareTags : ReadsBareTags Shape :=
  fun _ => rfl

theorem Direction.readsBareTags : ReadsBareTags Direction :=
  fun _ => rfl

theorem Category.readsBareTags : ReadsBareTags Category :=
  fun _ => rfl

theorem Inference.readsBareTags : ReadsBareTags Inference := by
  intro tag
  by_cases isFixed : tag = "Fixed"
  · rw [isFixed]
    rfl
  · by_cases isArithmetic : tag = "Arithmetic"
    · rw [isArithmetic]
      rfl
    · rw [decode?, instStoredInference]
      simp [Data.tagged?, isFixed, isArithmetic]

/-- Other fields beside the lock are passed over. -/
theorem Inference.reads_among {entries : List (String × Data)} {locked : Data}
    (found : Data.valuesOf entries "locked_output" = [locked]) :
    (decode? (.record [("Arithmetic", .record entries)]) : Option Inference) =
      decode? (.record [("Arithmetic", .record [("locked_output", locked)])]) := by
  have alone : Data.valuesOf [("locked_output", locked)] "locked_output" = [locked] :=
    Data.valuesOf_cons_self locked
  change Inference.ofRecord? (.record entries) =
    Inference.ofRecord? (.record [("locked_output", locked)])
  rw [Inference.ofRecord?, Inference.ofRecord?, found, alone]

/-- What is stored of the defaults, in the order of the names. -/
def Settings.defaults : List Data :=
  [encode ({} : Settings).diagnostics, encode ({} : Settings).warnOnClash]

/-- A setting that is left out is read as if its default stood there. -/
theorem Settings.reads_omitted {entries : List (String × Data)} {field : String × Data}
    (isDefault : field ∈ Settings.fieldNames.zip Settings.defaults)
    (omitted : Data.valuesOf entries field.1 = []) :
    (decode? (.record entries) : Option Settings) = decode? (.record (field :: entries)) := by
  have differs : "diagnostics" ≠ "warn_on_ambiguous_join" := by decide
  simp only [Settings.fieldNames, Settings.defaults, List.zip_cons_cons, List.zip_nil_right,
    List.mem_cons, List.not_mem_nil, or_false] at isDefault
  rw [Layout.decode?_stored, Layout.decode?_stored]
  simp only [Data.optionalFields?, Settings.layout, Settings.fieldNames, List.mapM_cons,
    List.mapM_nil]
  -- The other setting may be left out too, or given once, or refused for being given twice.
  rcases isDefault with rfl | rfl
  · simp only [Data.valuesOf_cons_self, Data.valuesOf_cons_of_ne differs, omitted]
    rcases Data.valuesOf entries "warn_on_ambiguous_join" with _ | ⟨value, _ | _⟩ <;> rfl
  · simp only [Data.valuesOf_cons_self, Data.valuesOf_cons_of_ne differs.symm, omitted]
    rcases Data.valuesOf entries "diagnostics" with _ | ⟨value, _ | _⟩ <;> rfl

/-- A list of settings that is too short is read as if it went on with the defaults. -/
theorem Settings.reads_shorter (values : List Data) :
    (decode? (.list values) : Option Settings) =
      decode? (.list (values ++ Settings.defaults.drop values.length)) := by
  match values with
  | [] => rfl
  | [_] => rfl
  | [_, _] => rfl
  | _ :: _ :: _ :: _ => simp [Settings.defaults]

theorem NodeId.readsAnyCase : ReadsAnyCase NodeId :=
  fun text => congrArg (Option.map NodeId.mk) (Uuid.ofText?_toLower text)

theorem PortId.readsAnyCase : ReadsAnyCase PortId :=
  fun text => congrArg (Option.map PortId.mk) (Uuid.ofText?_toLower text)

theorem LinkId.readsAnyCase : ReadsAnyCase LinkId :=
  fun text => congrArg (Option.map LinkId.mk) (Uuid.ofText?_toLower text)

/--
All parts of a graph and its settings are read back from what is stored of them, and
what is written of any data that can be read is read in the same way and written the
same.  These data include lists of fields, records with fields in any order and others
among them, tags with nothing stored under them, identifiers in upper case, and settings
of which some are left out.
-/
theorem Stored.parts_round_trip :
    (RoundTrips Shape ∧ RoundTrips Direction ∧ RoundTrips Category ∧ RoundTrips Inference ∧
      RoundTrips Settings ∧ RoundTrips Port ∧ RoundTrips Node ∧ RoundTrips NodeKind ∧
      RoundTrips Endpoint ∧ RoundTrips Link) ∧
    (ReadsFields Settings Settings.fieldNames ∧ ReadsFields Port Port.fieldNames ∧
      ReadsFields Node Node.fieldNames ∧ ReadsFields NodeKind NodeKind.fieldNames ∧
      ReadsFields Endpoint Endpoint.fieldNames ∧ ReadsFields Link Link.fieldNames) ∧
    (ReadsBareTags Shape ∧ ReadsBareTags Direction ∧ ReadsBareTags Category ∧
      ReadsBareTags Inference) ∧
    (∀ entries locked, Data.valuesOf entries "locked_output" = [locked] →
      (decode? (.record [("Arithmetic", .record entries)]) : Option Inference) =
        decode? (.record [("Arithmetic", .record [("locked_output", locked)])])) ∧
    (ReadsAnyCase NodeId ∧ ReadsAnyCase PortId ∧ ReadsAnyCase LinkId) ∧
    (∀ entries, ∀ field ∈ Settings.fieldNames.zip Settings.defaults,
      Data.valuesOf entries field.1 = [] →
        (decode? (.record entries) : Option Settings) = decode? (.record (field :: entries))) ∧
    ∀ values, (decode? (.list values) : Option Settings) =
      decode? (.list (values ++ Settings.defaults.drop values.length)) := by
  refine ⟨⟨roundTrips _, roundTrips _, roundTrips _, roundTrips _, roundTrips _, roundTrips _,
    roundTrips _, roundTrips _, roundTrips _, roundTrips _⟩, ?_, ?_, ?_, ?_, ?_, ?_⟩
  · exact ⟨Settings.layout.readsFields, Port.layout.readsFields, Node.layout.readsFields,
      NodeKind.layout.readsFields, Endpoint.layout.readsFields, Link.layout.readsFields⟩
  · exact ⟨Shape.readsBareTags, Direction.readsBareTags, Category.readsBareTags,
      Inference.readsBareTags⟩
  · exact fun _ _ found => Inference.reads_among found
  · exact ⟨NodeId.readsAnyCase, PortId.readsAnyCase, LinkId.readsAnyCase⟩
  · exact fun _ _ isDefault omitted => Settings.reads_omitted isDefault omitted
  · exact Settings.reads_shorter

namespace Sample

/-- A node with one input that is not in the form in which it would be written. -/
def scribbled : Data :=
  .record
    [ ("outputs", .list []),
      ("colour", .text "red"),
      ("inputs", .list [.list
        [ .text "00000000-0000-0000-0000-0000000000FE", .text "A", .record [("Input", .null)],
          .text "Pending", .record [("Vec2", .null)], .integer 255, .bool false ]]),
      ("inference", .record [("Arithmetic", .record [("locked_output", .bool true)])]),
      ("name", .text "Scribbled"),
      ("node_type", .text ""),
      ("id", .text "FFFFFFFF-ffff-FFFF-ffff-FFFFFFFFFFFF") ]

def deciphered : Node where
  id := ⟨.ofNat 0xFFFFFFFFFFFFFFFFFFFFFFFFFFFFFFFF⟩
  kind := ""
  name := "Scribbled"
  inference := .arithmetic true
  inputs := [⟨⟨.ofNat 254⟩, "A", .input, .pending, .vec2, 255, false⟩]
  outputs := []

/-- The scribbled node is written as the node that was meant, and this is the end of it. -/
theorem rewritten_scribbled :
    rewritten? Node scribbled = some (encode deciphered) ∧
      (decode? (encode deciphered) : Option Node) = decode? scribbled ∧
      rewritten? Node (encode deciphered) = some (encode deciphered) := by
  have isRead : decode? scribbled = some deciphered := by decide +kernel
  have isWritten : rewritten? Node scribbled = some (encode deciphered) := by
    rw [rewritten?, isRead, Option.map_some]
  have trips : RoundTrips Node := Stored.parts_round_trip.1.2.2.2.2.2.2.1
  exact ⟨isWritten, trips.read_rewritten isWritten, trips.rewritten_rewritten isWritten⟩

end Sample

end DataflowTyping
