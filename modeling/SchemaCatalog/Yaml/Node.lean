import SchemaCatalog.Yaml.Scalar
import SchemaCatalog.Yaml.Token

/-! The nodes of a YAML document: scalars, lists and mappings, each with its tag. A node that has an anchor
is kept apart under the name of it, and wherever it occurs only the name stands, so a node may contain
itself. A text holds at most one document.
-/
namespace SchemaCatalog.Yaml

inductive Node
  | scalar (tag : CoreTag) (spelling : Spelling)
  | list (tag : CoreTag) (items : List Node)
  | mapping (tag : CoreTag) (entries : List (Node × Node))
  | anchored (name : String)
deriving Repr

structure Document where
  root : Node
  anchors : List (String × Node)

namespace Node

/-- What is left out stands for null. -/
def absent : Node := .scalar .null ⟨[], true⟩

/-- The tokens to come, what the handles of tags mean, the anchors met so far, and the nodes of those that
are complete. -/
structure Source where
  tokens : List Token
  fault : Fault
  handles : List (String × String) := []
  known : List String := []
  anchors : List (String × Node) := []

abbrev Reading := StateT Source (Except Fault)

def malformed {α : Type} : Reading α := throw .malformed

def peek : Reading Token := do
  match (← get).tokens with
  | token :: _ => return token
  | [] => throw (← get).fault

def drop : Reading Unit := modify fun source => { source with tokens := source.tokens.tail }

def dropIf (token : Token) : Reading Bool := do
  let found := (← peek) = token
  if found then drop
  return found

def anchor? : Reading (Option String) := do
  match ← peek with
  | .anchor name => do drop; return some name
  | _ => return none

def tag? : Reading (Option Tag.Written) := do
  match ← peek with
  | .tag tag => do drop; return some tag
  | _ => return none

/-- The anchor and the tag before a node, in either order. -/
def properties : Reading (Option String × Option Tag.Written) := do
  match ← anchor? with
  | some name => return (some name, ← tag?)
  | none =>
    match ← tag? with
    | some tag => return (← anchor?, some tag)
    | none => return (none, none)

/-- A tag in full. A mark alone leaves it to the value. -/
def meaning (tag : Tag.Written) : Reading String := do
  match tag.handle with
  | none => return tag.suffix
  | some handle =>
    match (← get).handles.lookup handle with
    | some meant => return meant ++ tag.suffix
    | none => malformed

/-- Where a node stands: in brackets, in a block, or as a key or value of a block mapping, where the items
of a list need no further indentation. -/
inductive Place
  | flow
  | block
  | entry
deriving DecidableEq, Repr

/-- Read a node, and keep it apart if it has an anchor. -/
def keep (anchor : Option String) (node : Reading Node) : Reading Node := do
  match anchor with
  | none => node
  | some name =>
    if (← get).known.contains name then malformed
    else do
      modify fun source => { source with known := name :: source.known }
      let body ← node
      modify fun source => { source with anchors := (name, body) :: source.anchors }
      return .anchored name

mutual
def node : Nat → Place → Reading Node
  | 0, _ => malformed
  | budget + 1, place => do
    match ← peek with
    | .alias name =>
      if (← get).known.contains name then do drop; return .anchored name
      else malformed
    | _ => do
      let (anchor, written) ← properties
      let tag ← written.mapM meaning
      let tagged := fun (fallback : CoreTag) =>
        match tag with
        | none | some "!" => fallback
        | some name => .ofName name
      let token ← peek
      if token = .item ∧ place = .entry then
        keep anchor (.list (tagged .list) <$> openItems budget)
      else
        match token with
        | .scalar spelling isPlain =>
          let looks := isPlain || tag == some "!"
          let fallback := if looks then CoreTag.ofText spelling.chars else .text
          keep anchor do drop; return .scalar (tagged fallback) spelling
        | .openFlowItems =>
          keep anchor do drop; return .list (tagged .list) (← flowItems budget true)
        | .openFlowEntries =>
          keep anchor do drop; return .mapping (tagged .mapping) (← flowEntries budget true)
        | token =>
          if token = .openItems ∧ place ≠ .flow then
            keep anchor do drop; return .list (tagged .list) (← items budget)
          else if token = .openEntries ∧ place ≠ .flow then
            keep anchor do drop; return .mapping (tagged .mapping) (← entries budget)
          else if anchor.isSome || tag.isSome then
            keep anchor (return .scalar (tagged .null) ⟨[], true⟩)
          else malformed
def nodeBefore : Nat → Place → List Token → Reading Node
  | 0, _, _ => malformed
  | budget + 1, place, ends => do
    if ends.contains (← peek) then return absent else node budget place
def items : Nat → Reading (List Node)
  | 0 => malformed
  | budget + 1 => do
    if ← dropIf .item then
      let first ← nodeBefore budget .block [.item, .closeBlock]
      return first :: (← items budget)
    else if ← dropIf .closeBlock then return []
    else malformed
/-- Items that are indented no further than the entry they belong to. -/
def openItems : Nat → Reading (List Node)
  | 0 => malformed
  | budget + 1 => do
    if ← dropIf .item then
      let first ← nodeBefore budget .block [.item, .key, .value, .closeBlock]
      return first :: (← openItems budget)
    else return []
def valueBefore : Nat → Place → List Token → Reading Node
  | 0, _, _ => malformed
  | budget + 1, place, ends => do
    if ← dropIf .value then nodeBefore budget place ends else return absent
def entries : Nat → Reading (List (Node × Node))
  | 0 => malformed
  | budget + 1 => do
    if ← dropIf .key then
      let key ← nodeBefore budget .entry [.key, .value, .closeBlock]
      let value ← valueBefore budget .entry [.key, .value, .closeBlock]
      return (key, value) :: (← entries budget)
    else if ← dropIf .closeBlock then return []
    else malformed
/-- The items of a list in brackets. One with a key is a mapping of a single entry. -/
def flowItems : Nat → Bool → Reading (List Node)
  | 0, _ => malformed
  | budget + 1, isFirst => do
    if ← dropIf .closeFlowItems then return []
    if !isFirst then
      if !(← dropIf .comma) then malformed
      if ← dropIf .closeFlowItems then return []
    let item ←
      if ← dropIf .key then
        let key ← nodeBefore budget .flow [.value, .comma, .closeFlowItems]
        let value ← valueBefore budget .flow [.comma, .closeFlowItems]
        pure (.mapping .mapping [(key, value)])
      else node budget .flow
    return item :: (← flowItems budget false)
/-- The entries of a mapping in brackets; a key may do without a colon. -/
def flowEntries : Nat → Bool → Reading (List (Node × Node))
  | 0, _ => malformed
  | budget + 1, isFirst => do
    if ← dropIf .closeFlowEntries then return []
    if !isFirst then
      if !(← dropIf .comma) then malformed
      if ← dropIf .closeFlowEntries then return []
    let entry ←
      if ← dropIf .key then
        let key ← nodeBefore budget .flow [.value, .comma, .closeFlowEntries]
        let value ← valueBefore budget .flow [.comma, .closeFlowEntries]
        pure (key, value)
      else pure (← node budget .flow, absent)
    return entry :: (← flowEntries budget false)
end

end Node

namespace Document
open Node

def defaultHandles : List (String × String) := [("!", "!"), ("!!", CoreTag.scope)]

/-- The directives before a document, given whether its version is known; those of one kind must differ. -/
def directives : Nat → Bool → Reading Unit
  | 0, _ => malformed
  | budget + 1, versioned => do
    match ← peek with
    | .directive directive =>
      drop
      match directive with
      | .version major =>
        if versioned || major != 1 then malformed else directives budget true
      | .binding handle meant =>
        if (← get).handles.any (·.1 == handle) then malformed
        modify fun source => { source with handles := (handle, meant) :: source.handles }
        directives budget versioned
      | .other => directives budget versioned
    | _ => modify fun source => { source with handles := source.handles ++ defaultHandles }

def ending : Nat → Reading Unit
  | 0 => malformed
  | budget + 1 => do
    if ← dropIf .documentEnd then ending budget
    else if (← peek) = .textEnd then return
    else do
      modify fun source => { source with handles := [] }
      directives budget false
      malformed

/-- The root of the document in a text, if there is one. -/
def root? (budget : Nat) : Reading (Option Node) := do
  let first ← peek
  if first = .textEnd then return none
  let isBare := first ≠ .documentStart ∧ !(first matches .directive _)
  if isBare then modify fun source => { source with handles := defaultHandles }
  else
    directives budget false
    if !(← dropIf .documentStart) then malformed
  let isEnd := fun (token : Token) =>
    [.documentStart, .documentEnd, .textEnd].contains token || token matches .directive _
  let root ← if !isBare && isEnd (← peek) then pure absent else node budget .block
  ending budget
  return some root

/-- The document in a text, if it holds one. -/
def ofTokens? (tokens : Tokens) : Except Fault (Option Document) := do
  let budget := 4 * tokens.list.length + 4
  let (root, source) ← (root? budget).run { tokens := tokens.list, fault := tokens.fault }
  return root.map fun root => ⟨root, source.anchors⟩

end Document

end SchemaCatalog.Yaml
