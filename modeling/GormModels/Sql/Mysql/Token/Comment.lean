import GormModels.Sql.Mysql.Token.Lexer

/-!
Comments and variables. A comment belongs to the token before it if it starts on the line where that token, or a
comment of that token, ends; else it belongs to the token behind it. A word behind the sign of a variable names one.
-/

namespace GormModels.Sql.Mysql

/-- The text of a comment between its signs. -/
def commentText : List Char → List Char
  | '#' :: s => s
  | '-' :: '-' :: s => s
  | '/' :: '*' :: '+' :: s => s.dropLast.dropLast
  | _ :: _ :: s => s.dropLast.dropLast
  | s => s

/-- The comments in skipped text: those on the line where it starts if `onLine`, and the others. -/
def commentsIn (onLine : Bool) : List Char → List String × List String
  | [] => ([], [])
  | c :: s =>
    if Text.isBlank c then commentsIn (onLine && c != '\n' && c != '\r') s
    else
      match Lexer.step c s with
      | .ok (.skip n) =>
        let text := String.ofList (commentText (c :: s.take n))
        let (here, behind) := commentsIn onLine (s.drop n)
        if onLine then (text :: here, behind) else (here, text :: behind)
      | _ => ([], [])
termination_by s => s.length
decreasing_by all_goals (simp only [List.length_cons, List.length_drop]; omega)

/-- The comments of the token before, and the tokens with theirs. A semicolon leaves all comments before it to
the token before, and so does the end of the text. -/
def attachComments (first : Bool) (tail : List Char) : List Token → List String × List Token
  | [] =>
    let (here, behind) := commentsIn (!first) tail
    (here ++ behind, [])
  | t :: rest =>
    let (here, behind) := commentsIn (!first) t.skipped
    let (own, rest) := attachComments false tail rest
    if t.isSemicolon && !first then (here ++ behind, { t with comments := own } :: rest)
    else (here, { t with comments := behind ++ own } :: rest)

/-- A word behind the sign of a variable names one. -/
def nameVariable (behindSign : Bool) (t : Token) : Token :=
  if behindSign && t.kind == .word && t.text ∉ keyPhrases then { t with kind := .variable } else t

def nameVariables (behindSign : Bool) : List Token → List Token
  | [] => []
  | t :: rest => nameVariable behindSign t :: nameVariables (t.isSymbol "@") rest

/-- The tokens of a text with their comments, or the place where the lexer stopped, counted from the start of
the text. -/
def tokenize (text : List Char) : Except Nat (List Token) :=
  match Lexer.tokensAfter [] text with
  | .ok (tokens, tail) => .ok (nameVariables false (attachComments true tail tokens).2)
  | .error stop => .error (text.length + 1 - stop.unread)

end GormModels.Sql.Mysql
