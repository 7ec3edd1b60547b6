/-
  Wormhole.Json

  The part of `encoding/json` the dilation codec relies on, at the level of JSON
  documents: what `Marshal` writes for a struct, and what `Unmarshal` does to a
  `map[string]interface{}` it is given.  The textual encoding is the standard
  one and is not modelled: a frame is the document its bytes encode, or
  `malformed` when they are not JSON, and `Marshal` returns the document whose
  encoding it writes.

  `Marshal` encodes only exported struct fields, those whose Go name starts with
  an upper-case letter; a `json:"…"` tag renames a field but does not export it
  (`marshalStruct`).  `Unmarshal` into a non-nil map keeps the entries already
  there and stores the document's members over them (`unmarshalMap`).
-/
import Wormhole.Go

namespace Wormhole.Json

/-- A JSON document as `encoding/json` decodes it into an `interface{}`: a number keeps its
    literal text, strings and object keys are Go strings. -/
inductive JsonValue
  | null
  | bool (b : Bool)
  | number (literal : GoString)
  | string (s : GoString)
  | array (items : List JsonValue)
  | object (members : List (GoString × JsonValue))
  deriving Repr

/-- A struct field as `encoding/json` sees it: its Go name, the name its `json:"…"` tag
    gives, and its value.  The Go names of the source are ASCII. -/
structure StructField where
  name : String
  tag : String
  value : JsonValue

/-- A field is encoded only when it is exported: its Go name starts with an upper-case
    letter. -/
def StructField.exported (f : StructField) : Bool :=
  match f.name.toList with
  | c :: _ => c.isUpper
  | [] => false

/-- `json.Marshal` of a struct: an object with one member per exported field, keyed by its
    tag; Marshal cannot fail on the string fields of the source's structs. -/
def marshalStruct (fields : List StructField) : JsonValue × Option GoErr :=
  (.object ((fields.filter StructField.exported).map fun f => (goStr f.tag, f.value)), none)

/-- A Go `map[string]interface{}`: `none` is the nil map; a non-nil map lists its entries,
    the most recent store first, so `lookup` finds the current value of a key. -/
abbrev GoMap := Option (List (GoString × JsonValue))

/-- `m[key]` with its `ok`: a nil map has no entries. -/
def GoMap.lookup (m : GoMap) (key : GoString) : Option JsonValue :=
  m.bind fun entries => entries.lookup key

/-- A frame as `Unmarshal` reads it: bytes that are not JSON, or the document they encode. -/
inductive Frame
  | malformed
  | document (v : JsonValue)

/-- `json.Unmarshal(data, &result)` for `result : map[string]interface{}`: the map it leaves
    and whether it returned an error.  Malformed data leaves the map; an object stores its
    members in order into the map, allocating it when nil and keeping the entries already
    there; `null` sets the map to nil; any other document is a type error and leaves the
    map. -/
def unmarshalMap (data : Frame) (result : GoMap) : GoMap × Bool :=
  match data with
  | .malformed => (result, true)
  | .document .null => (none, false)
  | .document (.object members) =>
    (some (members.foldl (fun entries member => member :: entries) (result.getD [])), false)
  | .document _ => (result, true)

end Wormhole.Json
