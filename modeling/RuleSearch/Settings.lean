import RuleSearch.Decode

/-! Settings that hold for every search of an application, and how the cluster is reached. -/
namespace RuleSearch

structure Settings where
  /-- Put in front of every index name. -/
  indexPrefix : String
  /-- Keeps deleted documents out, for record types that are soft deleted. -/
  softDelete : Bool
deriving DecidableEq

namespace Settings

def standard : Settings := ⟨"", false⟩

def ofMembers (members : Fields) : Except Fault Settings := do
  let indexPrefix ← Decoder.member? members "prefix" Decoder.text
  let softDelete ← Decoder.member? members "soft_delete" Decoder.boolean
  return ⟨indexPrefix.getD "", softDelete.getD false⟩

def ofElements (items : List Json) : Except Fault (Settings × List Json) := do
  let (indexPrefix, items) ← Decoder.element? Decoder.text items
  let (softDelete, items) ← Decoder.element? Decoder.boolean items
  return (⟨indexPrefix.getD "", softDelete.getD false⟩, items)

def decode : Decoder Settings := Decoder.record "ScoutConfig" ofMembers ofElements

def toJson (s : Settings) : Json :=
  .obj (Dict.ofList [("prefix", .str s.indexPrefix), ("soft_delete", .bool s.softDelete)])

end Settings

inductive Credentials where
  | basic (username password : String)
  | bearer (token : String)
deriving DecidableEq

namespace Credentials

def names : List String := ["Basic", "Bearer"]

def content {α : Type} (ofMembers : Fields → Except Fault α) : Decoder α
  | .obj members => ofMembers members
  | v => .error (.wrongType v Fault.wantedContent)

def basicOfMembers (members : Fields) : Except Fault Credentials := do
  let password ← Decoder.member? members "password" Decoder.text
  let username ← Decoder.member? members "username" Decoder.text
  let username ← Decoder.need "username" username
  let password ← Decoder.need "password" password
  return basic username password

def bearerOfMembers (members : Fields) : Except Fault Credentials := do
  let token ← Decoder.member? members "token" Decoder.text
  let token ← Decoder.need "token" token
  return bearer token

def decode : Decoder Credentials
  | .obj [(name, v)] =>
    if name = "Basic" then content basicOfMembers v
    else if name = "Bearer" then content bearerOfMembers v
    else .error (.unknownName name names)
  | .obj _ => .error .notOneName
  | .str name => .error (if name ∈ names then .nameAlone else .unknownName name names)
  | v => .error (.wrongType v "string or map")

def toJson : Credentials → Json
  | basic username password =>
    .single "Basic" (.obj (Dict.ofList [("username", .str username), ("password", .str password)]))
  | bearer token => .single "Bearer" (.single "token" (.str token))

end Credentials

structure Connection where
  nodes : List String
  timeoutMillis : UInt64
  credentials : Option Credentials
  trustsAnyCertificate : Bool
deriving DecidableEq

namespace Connection

def standardTimeout : UInt64 := 30000

def standard : Connection := ⟨["http://localhost:9200"], standardTimeout, none, false⟩

def ofMembers (members : Fields) : Except Fault Connection := do
  let credentials ← Decoder.member? members "auth" (Decoder.nullable Credentials.decode)
  let trusts ← Decoder.member? members "disable_certificate_validation" Decoder.boolean
  let nodes ← Decoder.member? members "nodes" (Decoder.list Decoder.text)
  let timeout ← Decoder.member? members "request_timeout_ms" Decoder.natural
  let nodes ← Decoder.need "nodes" nodes
  return ⟨nodes, timeout.getD standardTimeout, credentials.join, trusts.getD false⟩

def ofElements (items : List Json) : Except Fault (Connection × List Json) := do
  let (nodes, items) ← Decoder.element? (Decoder.list Decoder.text) items
  let nodes ← match nodes with
    | some nodes => pure nodes
    | none => throw (.tooFewElements 0 "ElasticsearchConfig" 4)
  let (timeout, items) ← Decoder.element? Decoder.natural items
  let (credentials, items) ← Decoder.element? (Decoder.nullable Credentials.decode) items
  let (trusts, items) ← Decoder.element? Decoder.boolean items
  return (⟨nodes, timeout.getD standardTimeout, credentials.join, trusts.getD false⟩, items)

def decode : Decoder Connection :=
  Decoder.record "ElasticsearchConfig" ofMembers ofElements

def toJson (c : Connection) : Json :=
  .obj (Dict.ofList [
    ("nodes", .ofStrings c.nodes),
    ("request_timeout_ms", .ofNat c.timeoutMillis),
    ("auth", .ofOption (c.credentials.map Credentials.toJson)),
    ("disable_certificate_validation", .bool c.trustsAnyCertificate)])

end Connection

end RuleSearch
