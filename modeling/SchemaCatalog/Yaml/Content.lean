import SchemaCatalog.Yaml.Node

/-! What a YAML text contains. The values of a document are read level by level: the root first, then what
it contains, each key before its value, then what those contain. A text that is not a document, or a value
that cannot be read, is a fault of the whole; of several faults the first in that order counts. Entries
under a merge key are entries of the mapping around it, unless that has them itself.
-/
namespace SchemaCatalog.Yaml

namespace Document

def body? (document : Document) : Node → Option Node
  | .anchored name => document.anchors.lookup name
  | node => some node

def tag? (document : Document) (node : Node) : Option CoreTag :=
  (document.body? node).bind fun
    | .scalar tag _ | .list tag _ | .mapping tag _ => some tag
    | .anchored _ => none

/-- The spelling of a scalar, or of the default value of a mapping. -/
def spelling? (document : Document) : Nat → Node → Option Spelling
  | 0, _ => none
  | budget + 1, node =>
    match document.body? node with
    | some (.scalar _ spelling) => some spelling
    | some (.mapping _ entries) => do
      let (_, value) ← entries.find? fun entry => document.tag? entry.1 = some .default
      document.spelling? budget value
    | _ => none

/-- The mark for a default value is text where it is a key. -/
def asKey (document : Document) (key : Node) : Node :=
  match document.tag? key, document.body? key with
  | some .default, some (.scalar _ spelling) => .scalar .text spelling
  | _, _ => key

mutual
/-- The entries of a mapping after those merged into it. A mapping that is merged into itself, which shows by
the anchors passed on the way, adds nothing. -/
def merged (document : Document) : Nat → List String → List (Node × Node) →
    Except Fault (List (Node × Node))
  | 0, _, _ => .error .malformed
  | budget + 1, passed, entries => do
    let isMerge := fun (entry : Node × Node) => document.tag? entry.1 = some .merge
    let parts ← (entries.filter isMerge).mapM fun entry =>
      document.mergedPart budget passed entry.2
    let own := (entries.filter fun entry => !isMerge entry).map fun (key, value) =>
      (document.asKey key, value)
    return parts.flatten ++ own
/-- What a mapping, or a list of mappings, adds to the one it is merged into; of a list the first wins. -/
def mergedPart (document : Document) : Nat → List String → Node →
    Except Fault (List (Node × Node))
  | 0, _, _ => .error .malformed
  | budget + 1, passed, node =>
    match node with
    | .anchored name =>
      if passed.contains name then .ok []
      else
        match document.body? node with
        | some (.mapping _ entries) => document.merged budget (name :: passed) entries
        | some (.list _ items) => document.mergedItems budget (name :: passed) items
        | _ => .error .malformed
    | .mapping _ entries => document.merged budget passed entries
    | .list _ items => document.mergedItems budget passed items
    | .scalar _ _ => .error .malformed
def mergedItems (document : Document) : Nat → List String → List Node →
    Except Fault (List (Node × Node))
  | 0, _, _ => .error .malformed
  | budget + 1, passed, items => do
    let parts ← items.mapM fun item =>
      match document.body? item with
      | some (.mapping _ _) => document.mergedPart budget passed item
      | _ => .error .malformed
    return parts.reverse.flatten
end

/-- The values read so far that have an anchor, and the lists and mappings, the newest first, whose contents
are yet to be read. -/
structure Reading where
  known : List (String × Shape) := []
  pending : List Node := []

abbrev Level := StateT Reading (Except Fault)

/-- The shape of a value that has no anchor. Contents are left for the next level. -/
def bodyShape (document : Document) (budget : Nat) (node : Node) : Level Shape := do
  match document.tag? node with
  | none => throw .malformed
  | some tag =>
    match tag.shape? with
    | some shape =>
      modify fun reading => { reading with pending := node :: reading.pending }
      return shape
    | none =>
      match document.spelling? budget node with
      | some spelling => tag.read spelling
      | none => throw .malformed

def shape (document : Document) (budget : Nat) (node : Node) : Level Shape := do
  match node with
  | .anchored name =>
    match (← get).known.lookup name with
    | some shape => return shape
    | none =>
      match document.body? node with
      | none => throw .malformed
      | some body =>
        let shape ← document.bodyShape budget body
        modify fun reading => { reading with known := (name, shape) :: reading.known }
        return shape
  | node => document.bodyShape budget node

def entryShapes (document : Document) (budget : Nat) (entry : Node × Node) :
    Level (Shape × Shape) := do
  let key ← document.shape budget entry.1
  if !key.isKey then throw .malformed
  return (key, ← document.shape budget entry.2)

def readContents (document : Document) (budget : Nat) (node : Node) : Level Unit := do
  match node with
  | .list .list items => items.forM fun item => discard (document.shape budget item)
  | .mapping .mapping entries | .mapping .set entries =>
    (← document.merged budget [] entries).forM fun entry =>
      discard (document.entryShapes budget entry)
  | .list .orderedMapping items | .list .pairs items =>
    items.forM fun item => do
      match document.body? item with
      | some (.mapping _ [(key, value)]) =>
        discard (document.shape budget key)
        discard (document.shape budget value)
      | _ => throw .malformed
  | _ => throw .malformed

/-- Read level after level until nothing is pending. -/
def readLevels (document : Document) (budget : Nat) : Nat → Level Unit
  | 0 => throw .malformed
  | levels + 1 => do
    let level := (← get).pending.reverse
    if level.isEmpty then return
    modify fun reading => { reading with pending := [] }
    level.forM (document.readContents budget)
    document.readLevels budget levels

end Document

/-- The kind of the value in a text, with its entries if it is a mapping. -/
structure Content where
  shape : Shape
  entries : List (Shape × Shape) := []
deriving Repr

namespace Content

def isPrintable (c : Char) : Bool :=
  let code := c.toNat
  c == '\t' || c == '\n' || (0x20 ≤ code && code ≤ 0x7e) || code == 0x85 ||
    (0xa0 ≤ code && code ≤ 0xfffd) || 0x10000 ≤ code

/-- Line ends of other systems as line feeds. -/
def unified : List Char → List Char
  | '\r' :: '\n' :: rest => '\n' :: unified rest
  | '\r' :: rest => '\n' :: unified rest
  | c :: rest => c :: unified rest
  | [] => []

def ofDocument (document : Document) (budget : Nat) : Except Fault Content := do
  let reading : Document.Level Content := do
    let shape ← document.shape budget document.root
    document.readLevels budget budget
    match shape, document.body? document.root with
    | .mapping, some (.mapping _ entries) =>
      let entries ← document.merged budget [] entries
      return ⟨shape, ← entries.mapM (document.entryShapes budget)⟩
    | shape, _ => return { shape }
  return (← reading.run {}).1

/-- The content of a text; an empty one contains null. -/
def ofText (text : String) : Except Fault Content := do
  let chars := unified text.toList
  if !chars.all isPrintable then .error .malformed
  let tokens := Tokens.ofText chars
  match ← Document.ofTokens? tokens with
  | none => return ⟨.null, []⟩
  | some document => ofDocument document (4 * tokens.list.length + 4)

end Content

end SchemaCatalog.Yaml
