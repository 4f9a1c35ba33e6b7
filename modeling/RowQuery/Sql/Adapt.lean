import RowQuery.Apply
import RowQuery.Query.FromUrl
import RowQuery.Sql.Select

/-!
# Adapting a statement to a URL

The URL is read first, then the query is applied to the statement under the policy of the entity,
which is always enforced; the hidden columns are also left out of the rows.
-/
namespace RowQuery.Sql.Entity

def applier (e : Entity) : Applier where
  policy := e.policy
  recordType := e.recordType

def adaptSelect {φ : Type} (e : Entity) (base : Select φ) (limits : Limits) (url : String) :
    Attempt QueryError (EntityQuery φ) := do
  let query ← (Query.parseUrl limits url).mapError .parse
  Attempt.emit (.adapting e.recordType url)
  e.applier.apply query { entity := e, select := base, hidden := e.hidden }

def adapt (e : Entity) (url : String) : Attempt QueryError EntityQuery :=
  e.adaptSelect e.find {} url

end RowQuery.Sql.Entity
