import RuleSearch.Decode
import RuleSearch.SearchError

/-!
What a searchable record type tells about itself, apart from its rules and its records; among this
the index it lives in.
-/
namespace RuleSearch

structure IndexDescriptor where
  name : String
  settings : Fields
  mapping : Fields
deriving DecidableEq

namespace IndexDescriptor

def named (name : String) : IndexDescriptor := ⟨name, [], []⟩

def fullName (index : IndexDescriptor) (indexPrefix : String) : String := indexPrefix ++ index.name

def ofMembers (members : Fields) : Except Fault IndexDescriptor := do
  let mapping ← Decoder.member? members "mapping" (Decoder.dictionary Decoder.value)
  let name ← Decoder.member? members "name" Decoder.text
  let settings ← Decoder.member? members "settings" (Decoder.dictionary Decoder.value)
  let name ← Decoder.need "name" name
  return ⟨name, settings.getD [], mapping.getD []⟩

def ofElements (items : List Json) : Except Fault (IndexDescriptor × List Json) := do
  let (name, items) ← Decoder.element? Decoder.text items
  let name ← match name with
    | some name => pure name
    | none => throw (.tooFewElements 0 "Index" 3)
  let (settings, items) ← Decoder.element? (Decoder.dictionary Decoder.value) items
  let (mapping, items) ← Decoder.element? (Decoder.dictionary Decoder.value) items
  return (⟨name, settings.getD [], mapping.getD []⟩, items)

def decode : Decoder IndexDescriptor := Decoder.record "Index" ofMembers ofElements

def toJson (index : IndexDescriptor) : Json :=
  .obj (Dict.ofList [
    ("name", .str index.name), ("settings", .obj index.settings), ("mapping", .obj index.mapping)])

end IndexDescriptor

structure RecordType where
  name : String
  index : Option IndexDescriptor
  typeName : String
  /-- The field that identifies a record. -/
  identifier : String
  softDelete : Bool
deriving DecidableEq

namespace RecordType

def requireIndex (t : RecordType) : Except SearchError IndexDescriptor :=
  match t.index with
  | some index => .ok index
  | none => .error (.missingIndex t.name)

end RecordType

end RuleSearch
