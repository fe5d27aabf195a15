import GormModels.Naming.Word

/-!
Exported names: the words of an identifier put together, each with a capital.
-/

namespace GormModels.Naming

open Text

/-- The words that stay in capitals as a whole. -/
def initialisms : List String :=
  ["ACL", "API", "ASCII", "CPU", "CSS", "DNS", "EOF", "GUID", "HTML", "HTTP", "HTTPS", "ID", "IP",
    "JSON", "LHS", "QPS", "RAM", "RHS", "RPC", "SLA", "SMTP", "SQL", "SSH", "TCP", "TLS", "TTL",
    "UDP", "UI", "UID", "UUID", "URI", "URL", "UTF8", "VM", "XML", "XMPP", "XSRF", "XSS"]

def isInitialism (word : List Char) : Bool := initialisms.any (·.toList == word)

/-- A word as part of a name: initialisms and runs of capitals stay capital, other words get a capital
first letter. -/
def goWord (word : List Char) : List Char :=
  if isInitialism (upper word) then upper word
  else if isUpper word && 1 < word.length then word
  else upper (word.take 1) ++ lower (word.drop 1)

/-- The character that a name starts with when it would start with a digit or be empty. -/
def digitLead : Char := 'X'

def goName (identifier : List Char) : List Char :=
  match (nameWords identifier).flatMap goWord with
  | [] => [digitLead]
  | c :: rest => if isDigit c then digitLead :: c :: rest else c :: rest

def goNameText (identifier : String) : String := .ofList (goName identifier.toList)

end GormModels.Naming
