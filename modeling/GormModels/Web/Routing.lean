import GormModels.Json.Encoding
import GormModels.Text.Percent
import GormModels.Web.Request

/-!
Routing: requests by their paths and methods, with what is told of one that is for nothing or has a body that is no
request, and responses as they are written.
-/

namespace GormModels.Web

def Defect.value (d : Defect) : Value :=
  let reason := match d.flaw with
    | .notJson problem => [("ctx", object [("error", .text problem.message)])]
    | _ => []
  object ([("type", .text d.flaw.code), ("loc", .list d.place), ("msg", .text d.flaw.message),
    ("input", d.input)] ++ reason)

def plainDetail (status : Nat) (text : String) : Response :=
  ⟨status, .data (object [("detail", .text text)])⟩

/-- Whether a body of this type is JSON. -/
def isJsonType (contentType : String) : Bool :=
  let name := Text.trim (contentType.toList.takeWhile (· != ';'))
  match Text.split '/' (name.map Char.toLower) with
  | [main, sub] =>
    main == "application".toList && (sub == "json".toList || "+json".toList.isSuffixOf sub)
  | _ => false

/-- Why a body is no request. -/
inductive Refusal
  | defects (ds : List Defect)
  /-- The body is no text, or one that is beyond the limits of reading. -/
  | unreadable

section

variable [Text.Halves]

/-- The value of a body. One that is not sent as JSON is a text. -/
def bodyValue (contentType body : String) : Except Refusal Value :=
  let place := [Value.text "body"]
  if body == "" then .error (.defects [⟨.missing, place, .null⟩])
  else if !isJsonType contentType then .ok (.text body)
  else match Json.decode? (Text.Utf8.encode body) with
    | none => .error .unreadable
    | some s =>
      (Json.read s).mapError fun
        | .malformed problem position =>
          .defects [⟨.notJson problem, place ++ [.int position], object []⟩]
        | .beyondLimits => .unreadable

def readBody (r : Request) : Except Refusal CompileRequest := do
  let v ← bodyValue r.contentType r.body
  (CompileRequest.ofValue [.text "body"] v).mapError .defects

end

/-- The path that a request is for: without a query, escapes read, and without slashes at its end. -/
def route (path : String) : String :=
  let s := Text.unescape (path.toList.takeWhile fun c => c != '?' && c != '#')
  let bare := (s.reverse.dropWhile (· == '/')).reverse
  if s == ['/'] || s.isEmpty then "/" else .ofList bare

def upper (s : String) : String := .ofList (s.toList.map Char.toUpper)

/-- The pages that tell of the interface itself. -/
def documentation : List String := ["/docs", "/docs/oauth2-redirect", "/redoc", "/openapi.json"]

section

variable [Text.Halves]

/-- A response, if its content can be written. -/
def Response.checked (r : Response) : Except Failure Response :=
  match r.content with
  | .page _ => .ok r
  | .data v =>
    if hasOddNumber v then .error .notNumber
    else if (Json.write v).any Text.isLoneHalf then .error .loneHalf
    else .ok r

/-- What a request is for, by its path; each path has one method. -/
def Request.call (r : Request) : Call :=
  let only (method : String) (call : Call) : Call :=
    if upper r.method == method then call else .answered (plainDetail 405 "Method Not Allowed")
  match route r.path with
  | "/" => only "GET" .page
  | "/healthz" => only "GET" .health
  | "/api/parse" =>
    only "POST" <|
      match readBody r with
      | .ok t => .compile t
      | .error (.defects ds) => .answered ⟨422, .data (object [("detail", .list (ds.map Defect.value))])⟩
      | .error .unreadable => .answered (plainDetail 400 "There was an error parsing the body")
  | path =>
    if documentation.contains path then only "GET" (.answered (plainDetail 404 "Not Found"))
    else .answered (plainDetail 404 "Not Found")

instance : Framework where
  receive := Request.call
  send := Response.checked

end

end GormModels.Web
