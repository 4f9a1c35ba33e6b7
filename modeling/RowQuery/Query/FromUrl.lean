import RowQuery.Query.Parser
import RowQuery.Url.Reference

/-!
# Reading a query from a URL

The path and the fragment of a URL are ignored, and a URL without a query asks for nothing.
-/
namespace RowQuery.Query

def urlQuery (url : String) : Except ParseError String :=
  match Url.query? url with
  | .ok query => .ok (query.getD "")
  | .error fault => .error (.invalidUrl (Text.quote url ++ ": " ++ fault.message))

def parseUrl (limits : Limits) (url : String) : Attempt ParseError Query := do
  let text ← Attempt.ofExcept (urlQuery url)
  parseQueryString limits text

end RowQuery.Query
