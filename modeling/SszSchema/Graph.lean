import SszSchema.Diagnostic
import SszSchema.FileTree

/-!
# Type graph

The types of a schema are the nodes of one arena and refer to each other by number, so a record that
several fields use is one node, and records may refer to each other. A record's node is reserved
before its fields are known and filled afterwards.

* `uint` and `bool` have a `width` in bytes;
* `bytes` has an exact `length`, or else a `limit`;
* `bitVector` has a `length` in bits, `bitList` possibly a `limit`; a `packed` bit list has its
  encoded bytes as value;
* `vector` has `length` elements and `list` at most `limit`;
* `container` has the `fields` of a `record`.

`fixedSize` and `isDynamic` are known once a node has been classified.
-/

namespace SszSchema

/-- The number of a node. -/
abbrev NodeId := Nat

/-- The bytes of an offset. -/
def offsetBytes : Nat := 4

/-- The kinds of types. -/
inductive NodeKind where
  | uint
  | bool
  | bytes
  | bitVector
  | bitList
  | vector
  | list
  | container
  deriving DecidableEq, Repr

namespace NodeKind

/-- The word for a kind. -/
def text : NodeKind → String
  | .uint => "uint"
  | .bool => "bool"
  | .bytes => "bytes"
  | .bitVector => "bitvector"
  | .bitList => "bitlist"
  | .vector => "vector"
  | .list => "list"
  | .container => "container"

/-- The kind that a word stands for. -/
def ofText? (s : String) : Option NodeKind :=
  [uint, bool, bytes, bitVector, bitList, vector, list, container].find? (·.text == s)

end NodeKind

/-- A field of a container: its name and its type. -/
structure FieldRef where
  name : String
  node : NodeId
  line : Nat := 0
  deriving DecidableEq, Repr

/-- A type. -/
structure Node where
  kind : NodeKind
  width : Option Nat := none
  length : Option Nat := none
  limit : Option Nat := none
  element : Option NodeId := none
  fields : List FieldRef := []
  record : Option String := none
  packed : Bool := false
  fixedSize : Option Nat := none
  isDynamic : Option Bool := none
  deriving DecidableEq, Repr

/-- What a step on a graph can run into. -/
inductive GraphFault where
  /-- No node has the number. -/
  | outOfRange
  /-- The node is no reserved container. -/
  | notReserved (id : NodeId)
  /-- The record has a node already. -/
  | registered (name : String)
  /-- No node is registered for the record. -/
  | unregistered (name : String)
  /-- The node has not been classified. -/
  | unclassified (kind : NodeKind)
  /-- The node lacks what its kind needs. -/
  | incomplete
  /-- Elements of elements never end. -/
  | endless
  deriving DecidableEq, Repr

namespace Node

/-- Whether a node has a fixed size; unknown until it is classified. -/
def isFixed (n : Node) : Except GraphFault Bool :=
  match n.isDynamic with
  | some dynamic => .ok !dynamic
  | none => .error (.unclassified n.kind)

/-- Named numbers and texts of a node, as far as it has them. -/
def toDatum (n : Node) : Datum :=
  let number (name : String) (v : Option Nat) : DataMap :=
    (v.map fun x => (name, Datum.int x)).toList
  .map ([("kind", .text n.kind.text)] ++ number "width" n.width ++ number "length" n.length ++
    number "limit" n.limit ++ number "element" n.element ++
    (n.record.map fun r => ("record", Datum.text r)).toList ++ number "fixed_size" n.fixedSize ++
    (n.isDynamic.map fun b => ("is_dynamic", Datum.bool b)).toList ++
    (if n.packed then [("packed", .bool true)] else []) ++
    if n.kind = .container then
      [("fields", .list (n.fields.map fun f =>
        .map [("name", .text f.name), ("node", .int f.node)]))]
    else [])

end Node

/-- The nodes of a graph; the number of a node is its position. -/
structure Arena where
  nodes : List Node
  deriving DecidableEq, Repr

namespace Arena

/-- The arena without nodes. -/
def empty : Arena := ⟨[]⟩

/-- The number of nodes. -/
def size (a : Arena) : Nat := a.nodes.length

/-- The node of a number. -/
def get? (a : Arena) (id : NodeId) : Option Node := a.nodes[id]?

/-- The node of a number, which must exist. -/
def get (a : Arena) (id : NodeId) : Except GraphFault Node :=
  match a.get? id with
  | some n => .ok n
  | none => .error .outOfRange

/-- Adds a node, and returns its number. -/
def add (a : Arena) (n : Node) : Arena × NodeId := (⟨a.nodes ++ [n]⟩, a.size)

/-- Replaces a node. -/
def set (a : Arena) (id : NodeId) (n : Node) : Arena := ⟨a.nodes.set id n⟩

/-- Whether a node is reserved: a container whose fields are not known yet. -/
def isReserved (n : Node) : Bool := n.kind = .container && n.fields.isEmpty

/-- Fills a reserved node. -/
def fill (a : Arena) (id : NodeId) (n : Node) : Except GraphFault Arena :=
  match a.get? id with
  | none => .error .outOfRange
  | some old => if isReserved old then .ok (a.set id n) else .error (.notReserved id)

end Arena

/-- The nodes of records, in the order in which the records were resolved. -/
structure Registry where
  entries : List (String × NodeId) := []
  deriving DecidableEq, Repr

namespace Registry

/-- The node of a record. -/
def get? (r : Registry) (name : String) : Option NodeId :=
  (r.entries.find? (·.1 == name)).map (·.2)

/-- Whether a record has a node. -/
def contains (r : Registry) (name : String) : Bool := (r.get? name).isSome

/-- The records in order. -/
def order (r : Registry) : List String := r.entries.map (·.1)

/-- The numbers of the records' nodes in order. -/
def ids (r : Registry) : List NodeId := r.entries.map (·.2)

/-- Registers the node of a record, once. -/
def put (r : Registry) (name : String) (id : NodeId) : Except GraphFault Registry :=
  if r.contains name then .error (.registered name) else .ok ⟨r.entries ++ [(name, id)]⟩

end Registry

/-- A classified graph and its records in order. -/
structure Schema where
  arena : Arena
  records : List (String × NodeId)
  deriving DecidableEq, Repr

namespace Schema

/-- The records in order. -/
def order (s : Schema) : List String := s.records.map (·.1)

/-- Whether a record belongs to the schema. -/
def contains (s : Schema) (name : String) : Bool := s.order.contains name

/-- The node of a number. -/
def node (s : Schema) (id : NodeId) : Except GraphFault Node := s.arena.get id

/-- The node of a record. -/
def record (s : Schema) (name : String) : Except GraphFault Node :=
  match s.records.find? (·.1 == name) with
  | none => .error (.unregistered name)
  | some (_, id) => s.arena.get id

/-- The fields of a record with their nodes. -/
def fieldNodes (s : Schema) (name : String) : Except GraphFault (List (FieldRef × Node)) := do
  let record ← s.record name
  record.fields.mapM fun f => do return (f, ← s.arena.get f.node)

/-- The records and nodes of a schema. -/
def toDatum (s : Schema) : Datum :=
  .map [("records", .map (s.records.map fun e => (e.1, .int e.2))),
    ("nodes", .list (s.arena.nodes.map Node.toDatum))]

end Schema

/-- Why a step of a run stopped. -/
inductive Failure where
  /-- A diagnostic for the caller. -/
  | reported (d : Diagnostic)
  /-- A number with too many digits. -/
  | digitLimit
  /-- A fault in the graph. -/
  | graph (fault : GraphFault)
  /-- No file beside the source can have the name. -/
  | unnamed (source : Path) (name : String)
  /-- A source file that cannot be read as a program. -/
  | syntaxError (source : Path)
  /-- A fault of the file system. -/
  | file (fault : FileFault)
  /-- A name of a configuration file that should lead to a table leads elsewhere. -/
  | noTable
  deriving Repr

end SszSchema
