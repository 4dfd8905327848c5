import DataflowTyping.Link
import DataflowTyping.Node
import DataflowTyping.Settings
import DataflowTyping.Stored.Data

/-!
# The stored form of a graph's parts

Shapes, ports, nodes, kinds, links and settings are stored under fixed tags and
field names.  The fields of settings may be missing when they are read; all
others must be there.
-/

namespace DataflowTyping

instance : Stored Uuid where
  encode uuid := .text uuid.text
  decode?
    | .text text => Uuid.ofText? text
    | _ => none

instance : Stored NodeId where
  encode node := encode node.uuid
  decode? data := (decode? data).map NodeId.mk

instance : Stored PortId where
  encode port := encode port.uuid
  decode? data := (decode? data).map PortId.mk

instance : Stored LinkId where
  encode link := encode link.uuid
  decode? data := (decode? data).map LinkId.mk

def Shape.tag : Shape → String
  | pending => "Pending"
  | scalar => "Scalar"
  | vec2 => "Vec2"
  | vec3 => "Vec3"
  | vec4 => "Vec4"
  | scalarOrVec2 => "ScalarOrVec2"
  | scalarOrVec3 => "ScalarOrVec3"
  | scalarOrVec4 => "ScalarOrVec4"

def Shape.ofTag? (tag : String) : Option Shape :=
  all.find? fun shape => shape.tag = tag

@[simp]
theorem Shape.ofTag?_tag (shape : Shape) : ofTag? shape.tag = some shape := by
  cases shape <;> rfl

instance : Stored Shape where
  encode shape := .text shape.tag
  decode? data := data.tag?.bind Shape.ofTag?

def Direction.tag : Direction → String
  | input => "Input"
  | output => "Output"

def Direction.ofTag? : String → Option Direction
  | "Input" => some input
  | "Output" => some output
  | _ => none

@[simp]
theorem Direction.ofTag?_tag (direction : Direction) : ofTag? direction.tag = some direction := by
  cases direction <;> rfl

instance : Stored Direction where
  encode direction := .text direction.tag
  decode? data := data.tag?.bind Direction.ofTag?

def Category.tag : Category → String
  | input => "Input"
  | arithmetic => "Arithmetic"
  | vector => "Vector"

def Category.ofTag? : String → Option Category
  | "Input" => some input
  | "Arithmetic" => some arithmetic
  | "Vector" => some vector
  | _ => none

@[simp]
theorem Category.ofTag?_tag (category : Category) : ofTag? category.tag = some category := by
  cases category <;> rfl

instance : Stored Category where
  encode category := .text category.tag
  decode? data := data.tag?.bind Category.ofTag?

/-- What is stored under the tag of arithmetic must be a record. -/
def Inference.ofRecord? : Data → Option Inference
  | .record entries =>
      match Data.valuesOf entries "locked_output" with
      | [locked] => (decode? locked).map arithmetic
      | _ => none
  | _ => none

instance : Stored Inference where
  encode
    | .fixed => .text "Fixed"
    | .arithmetic locked =>
        .record [("Arithmetic", .record [("locked_output", encode locked)])]
  decode? data :=
    match data.tagged? with
    | some ("Fixed", none) | some ("Fixed", some .null) => some .fixed
    | some ("Arithmetic", some content) => Inference.ofRecord? content
    | _ => none

def Settings.fieldNames : List String :=
  ["diagnostics", "warn_on_ambiguous_join"]

/-- Read a field that may be missing. -/
def Stored.orDefault? {Value : Type} [Stored Value] (fallback : Value) :
    Option Data → Option Value
  | none => some fallback
  | some data => decode? data

def Settings.layout : Layout Settings where
  names := fieldNames
  write settings := [encode settings.diagnostics, encode settings.warnOnClash]
  read?
    | [diagnostics, warnOnClash] => do
        let defaults : Settings := {}
        return {
          diagnostics := ← Stored.orDefault? defaults.diagnostics diagnostics
          warnOnClash := ← Stored.orDefault? defaults.warnOnClash warnOnClash }
    | _ => none

instance : Stored Settings :=
  Settings.layout.stored

def Port.fieldNames : List String :=
  ["id", "name", "direction", "value_type", "default_type", "typecast_target", "multi_connect"]

def Port.layout : Layout Port where
  names := fieldNames
  write port :=
    [encode port.id, encode port.name, encode port.direction, encode port.shape,
      encode port.declared, encode port.cast, encode port.manyLinks]
  read?
    | [some id, some name, some direction, some shape, some declared, some cast, some manyLinks] =>
        return {
          id := ← decode? id
          name := ← decode? name
          direction := ← decode? direction
          shape := ← decode? shape
          declared := ← decode? declared
          cast := ← decode? cast
          manyLinks := ← decode? manyLinks }
    | _ => none

instance : Stored Port :=
  Port.layout.stored

def NodeKind.fieldNames : List String :=
  ["id", "name", "category", "description", "inference", "inputs", "outputs"]

def NodeKind.layout : Layout NodeKind where
  names := fieldNames
  write kind :=
    [encode kind.id, encode kind.name, encode kind.category, encode kind.description,
      encode kind.inference, encode kind.inputs, encode kind.outputs]
  read?
    | [some id, some name, some category, some description, some inference,
        some inputs, some outputs] =>
        return {
          id := ← decode? id
          name := ← decode? name
          category := ← decode? category
          description := ← decode? description
          inference := ← decode? inference
          inputs := ← decode? inputs
          outputs := ← decode? outputs }
    | _ => none

instance : Stored NodeKind :=
  NodeKind.layout.stored

def Node.fieldNames : List String :=
  ["id", "node_type", "name", "inference", "inputs", "outputs"]

def Node.layout : Layout Node where
  names := fieldNames
  write node :=
    [encode node.id, encode node.kind, encode node.name, encode node.inference,
      encode node.inputs, encode node.outputs]
  read?
    | [some id, some kind, some name, some inference, some inputs, some outputs] =>
        return {
          id := ← decode? id
          kind := ← decode? kind
          name := ← decode? name
          inference := ← decode? inference
          inputs := ← decode? inputs
          outputs := ← decode? outputs }
    | _ => none

instance : Stored Node :=
  Node.layout.stored

def Endpoint.fieldNames : List String :=
  ["node", "port"]

def Endpoint.layout : Layout Endpoint where
  names := fieldNames
  write endpoint := [encode endpoint.node, encode endpoint.port]
  read?
    | [some node, some port] => return ⟨← decode? node, ← decode? port⟩
    | _ => none

instance : Stored Endpoint :=
  Endpoint.layout.stored

def Link.fieldNames : List String :=
  ["id", "output", "input"]

def Link.layout : Layout Link where
  names := fieldNames
  write link := [encode link.id, encode link.source, encode link.target]
  read?
    | [some id, some source, some target] =>
        return { id := ← decode? id, source := ← decode? source, target := ← decode? target }
    | _ => none

instance : Stored Link :=
  Link.layout.stored

end DataflowTyping
