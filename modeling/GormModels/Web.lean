import GormModels.Naming.Plural
import GormModels.Options.Coercion
import GormModels.Sql.Mysql
import GormModels.Web.Page
import GormModels.Web.Routing

/-!
The web interface: a page for browsers, a sign of life, and Go source on request.
-/

namespace GormModels.Web

def reportValue (r : Report) : Value :=
  object [("error", .text r.message), ("error_code", r.code.elim .null .text),
    ("context", object (r.contextTexts.map fun (name, s) => (name, .text s)))]

section

variable [Sql.Dialect] [Naming.Inflection] [Validator] [Framework]

/-- Go source, or the report that tells why there is none. A failure without a report ends the request
without an answer. -/
def answer (t : CompileRequest) : Except Failure Response :=
  match Options.ofEntries t.entries with
  | .error e => .ok ⟨400, .data (reportValue e.report)⟩
  | .ok options =>
    match compile options t.sql with
    | .ok code => .ok ⟨200, .data (object [("code", .text code)])⟩
    | .error e =>
      match e.report? with
      | some report => .ok ⟨400, .data (reportValue report)⟩
      | none => .error (.unreported e)

def respond (r : Request) : Except Failure Response := do
  let response ← match Framework.receive r with
    | .page => .ok ⟨200, .page page⟩
    | .health => .ok ⟨200, .data (object [("status", .text "ok")])⟩
    | .compile t => answer t
    | .answered response => .ok response
  Framework.send response

end

end GormModels.Web
