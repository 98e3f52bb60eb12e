import RuleSearch.Search.Basic

/-!
The requests a search stands for, in the order of their rules. Each starts from what the rule asks
and is completed by what all of them share: the shape of the result, the clauses, the additions.
-/
namespace RuleSearch

namespace Request

def boolPath : Path := ["body", "query", "bool"]

def filterPath : Path := ["body", "query", "bool", "filter"]

def bucketPath (b : Bucket) : Path := ["body", "query", "bool", "filter", "bool", b.key]

def writeShape (r : Request) (d : Draft) (o : Options) : Request :=
  r.writeUnlessBlank ["body", "_source"] (.ofStrings d.select)
    |>.writeUnlessBlank ["body", "collapse", "field"] (.ofOption (d.collapse.map .str))
    |>.writeUnlessBlank ["body", "sort"] (.arr d.orders)
    |>.writeUnlessBlank ["body", "explain"] (.bool o.explain)
    |>.writeUnlessBlank ["body", "profile"] (.bool o.profile)
    |>.writeUnlessNull ["body", "from"] (.ofOption (d.offset.map .ofNat))
    |>.writeUnlessNull ["body", "size"] (.ofOption (d.limit.map .ofNat))

/-- The filter of a rule as a list of clauses, if it is one or a single clause. A filter that is
already a boolean query is neither. -/
def flatFilter (r : Request) : List Json :=
  match r.get? filterPath with
  | some (.arr clauses) => clauses
  | some (.obj clause) => if Dict.contains clause "bool" then [] else [.obj clause]
  | _ => []

/-- Makes room for clauses beside those of the rule. -/
def nestFilter (r : Request) : Request :=
  if r.flatFilter.isEmpty then r
  else r.write filterPath (.single "bool" (.single "filter" (.arr r.flatFilter)))

def bucketClauses (r : Request) (b : Bucket) : List Json :=
  ((r.get? (bucketPath b)).bind Json.items?).getD []

def extendBucket (r : Request) (b : Bucket) (clauses : List Json) : Request :=
  r.writeUnlessBlank (bucketPath b) (.arr (r.bucketClauses b ++ clauses))

def writeClauses (r : Request) (bs : Buckets) : Request :=
  Bucket.all.foldl (fun r b => r.extendBucket b (bs.get b)) (if bs.isEmpty then r else r.nestFilter)

/-- Adds values below a path under dotted keys, in key order, where there are none yet. -/
def writeAppends (r : Request) (root : Path) (appends : Fields) : Request :=
  appends.foldl (fun r entry => r.add (root ++ Path.ofKey entry.1) entry.2 false) r

def complete (r : Request) (d : Draft) (o : Options) : Request :=
  ((r.writeShape d o).writeClauses d.wheres
    |>.writeAppends ["body"] d.bodyAppends)
    |>.writeAppends ["body", "query"] d.queryAppends

end Request

def Rule.seed (rule : Rule) (s : Subject) (o : Options) : Except SearchError Request := do
  let r ← Request.ofRecordType s.recordType s.settings
  let r := r.write Request.boolPath (rule.fragment s)
  match rule.highlight s with
  | some highlight =>
    return if o.highlight then r.writeUnlessBlank ["body", "highlight"] highlight else r
  | none => return r

def Rule.seedAll (s : Subject) (o : Options) (rules : List Rule) :
    Except SearchError (List Request) :=
  (rules.filter (·.contributes s)).mapM (·.seed s o)

namespace Search

variable {R : Type}

def matchAll (s : Search R) : Except SearchError Request := do
  let r ← Request.ofRecordType s.recordType s.settings
  return r.write ["body", "query", "bool", "must", "match_all"] (.obj [])

def seeds (s : Search R) (o : Options) : Except SearchError (List Request) :=
  match s.query with
  | .everything => do return [← s.matchAll]
  | .text _ _ => Rule.seedAll s.subject o s.rules

def requests (s : Search R) (o : Options) : Except SearchError (List Request) := do
  let seeds ← s.seeds o
  return seeds.map (·.complete s.draft o)

end Search

end RuleSearch
