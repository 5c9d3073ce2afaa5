import SchemaCatalog.Json.Writer

/-! Fingerprints tell schemas apart by structure. Annotations do not count, that is members named
`description` whose value is a text, at any depth; nor does the order of members. A member of that
name with any other value is part of the structure. The fingerprint is the compact text of what is
left, members sorted by name.
-/
namespace SchemaCatalog.Fingerprint

def isAnnotation (name : String) : Json → Bool
  | .str _ => name == "description"
  | _ => false

def insertMember (name : String) (value : Json) : List (String × Json) → List (String × Json)
  | [] => [(name, value)]
  | (other, known) :: rest =>
    if name ≤ other then (name, value) :: (other, known) :: rest
    else (other, known) :: insertMember name value rest

mutual
/-- The document without annotations, members sorted by name at every depth. -/
def structureOf : Json → Json
  | .arr items => .arr (itemsStructure items)
  | .obj members => .obj (membersStructure members)
  | scalar => scalar
def itemsStructure : List Json → List Json
  | [] => []
  | item :: rest => structureOf item :: itemsStructure rest
def membersStructure : List (String × Json) → List (String × Json)
  | [] => []
  | (name, value) :: rest =>
    if isAnnotation name value then membersStructure rest
    else insertMember name (structureOf value) (membersStructure rest)
end

end SchemaCatalog.Fingerprint

namespace SchemaCatalog.Json

def fingerprint (value : Json) : String := (Fingerprint.structureOf value).render .compact

end SchemaCatalog.Json
