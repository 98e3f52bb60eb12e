import RuleSearch.Bucket

/-!
What boolean queries mean. Whether a document matches a plain clause is left open: `atom` tells it
for one document. A clause that holds nothing but a boolean query means that query.
-/
namespace RuleSearch

namespace Meaning

/-- The clauses of a bucket, given as a list or as a single object. -/
def clauses (node : Fields) (b : Bucket) : List Json :=
  match node.get? b.key with
  | some (.arr items) => items
  | some (.obj clause) => [.obj clause]
  | _ => []

theorem sizeOf_get? {node : Fields} {k : String} {v : Json} (h : node.get? k = some v) :
    sizeOf v < sizeOf node := by
  induction node with
  | nil => simp at h
  | cons entry rest ih =>
    obtain ⟨l, w⟩ := entry
    unfold Dict.get? at h
    split at h
    · simp at h
    · split at h
      · cases Option.some.inj h
        simp only [List.cons.sizeOf_spec, Prod.mk.sizeOf_spec]
        omega
      · have := ih h
        simp only [List.cons.sizeOf_spec]
        omega

theorem sizeOf_mem_clauses {node : Fields} {b : Bucket} {clause : Json}
    (h : clause ∈ clauses node b) : sizeOf clause < sizeOf node := by
  unfold clauses at h
  split at h
  · rename_i items found
    have outer := sizeOf_get? found
    have inner := List.sizeOf_lt_of_mem h
    simp only [Json.arr.sizeOf_spec] at outer
    omega
  · rename_i members found
    rw [List.mem_singleton.1 h]
    exact sizeOf_get? found
  · simp at h

mutual

def clauseHolds (atom : Json → Bool) : Json → Bool
  | .obj [(k, .obj node)] => if k = "bool" then nodeHolds atom node else atom (.single k (.obj node))
  | clause => atom clause
termination_by clause => sizeOf clause

/-- Every `must` and `filter` clause matches and no `must_not` clause does. Where there is neither a
`must` nor a `filter` clause, one of the `should` clauses has to match, if there are any. -/
def nodeHolds (atom : Json → Bool) (node : Fields) : Bool :=
  let all (b : Bucket) := (clauses node b).attach.all fun ⟨c, _⟩ => clauseHolds atom c
  let any (b : Bucket) := (clauses node b).attach.any fun ⟨c, _⟩ => clauseHolds atom c
  all .must && all .filter && !any .mustNot
    && ((clauses node .should).isEmpty || !(clauses node .must).isEmpty
      || !(clauses node .filter).isEmpty || any .should)
termination_by sizeOf node
decreasing_by all_goals exact sizeOf_mem_clauses (by assumption)

end

theorem nodeHolds_eq (atom : Json → Bool) (node : Fields) :
    nodeHolds atom node =
      ((clauses node .must).all (clauseHolds atom)
        && (clauses node .filter).all (clauseHolds atom)
        && !(clauses node .mustNot).any (clauseHolds atom)
        && ((clauses node .should).isEmpty || !(clauses node .must).isEmpty
          || !(clauses node .filter).isEmpty || (clauses node .should).any (clauseHolds atom))) := by
  rw [nodeHolds]
  simp

@[simp] theorem clauseHolds_bool (atom : Json → Bool) (node : Fields) :
    clauseHolds atom (.single "bool" (.obj node)) = nodeHolds atom node := by
  rw [Json.single, clauseHolds]
  simp

end Meaning

end RuleSearch
