import GormModels.Json.Encoding
import GormModels.Proofs.Text.Join
import GormModels.Web.Request

/-!
# What frameworks keep to

Of a framework no more is taken for granted than its documentation says of two things: that a request whose body is a
JSON object with texts and flags under the names of the fields is handed over with these, and that a value is sent as
compact JSON in UTF-8, in which characters are left as they are.
-/

namespace GormModels.Web

/-! ### Bodies -/

/-- The names of the options in a body, in the order of `CompileRequest.table`. Of two names the first counts. -/
def bodyNames : List (List String) := [
  ["col_prefix"], ["json", "json_tag"], ["table_prefix"], ["package"], ["no_null"], ["null_style"], ["gorm_type"],
  ["force_tablename"], ["charset"], ["collation"]]

/-- The members of an object hold a request. What they do not give, or give as null, the request has not. -/
structure Holds (members : List (Value × Value)) (t : CompileRequest) : Prop where
  sql : member? "sql" members = some (.text t.sql)
  options : bodyNames.map (fun names => (given? names members).map (·.2)) = t.table.map (·.2)

section

variable [Text.Halves]

/-- A request for Go source is sent, with a JSON object for its body. -/
structure Sends (r : Request) (t : CompileRequest) : Prop where
  method : r.method = "POST"
  path : r.path = "/api/parse"
  contentType : r.contentType = "application/json"
  body : ∃ s members, Json.decode? (Text.Utf8.encode r.body) = some s ∧ Json.read s = .ok (.map members) ∧
    Holds members t

/-- Whether there is half of a surrogate pair in a text, for which there are no bytes. -/
def hasLoneHalf (text : String) : Bool := text.toList.any Text.isLoneHalf

class LawfulFramework [Framework] : Prop where
  receive_of_sends {r : Request} {t : CompileRequest} : Sends r t → Framework.receive r = .compile t
  send_data (status : Nat) {v : Value} : hasOddNumber v = false →
    Framework.send ⟨status, .data v⟩ =
      if hasLoneHalf (Json.write v) then .error .loneHalf else .ok ⟨status, .data v⟩

end

end GormModels.Web
