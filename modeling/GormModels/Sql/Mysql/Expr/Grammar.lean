import GormModels.Sql.Mysql.DataType
import GormModels.Sql.Mysql.Expr.Function
import GormModels.Sql.Mysql.Reading
import GormModels.Sql.Mysql.Token.Comment
import GormModels.Text.Digit

/-!
The grammar of expressions and data types. Binary operators are read by binding strength; the fuel bounds
how deep readings nest and is a multiple of the number of tokens wherever a grammar starts.
-/

namespace GormModels.Sql.Mysql

/-- How tightly an operator binds, weakest first. -/
structure Operator where
  symbols : List String
  strength : Nat
  text : String

/-- The binary operators with what they are written as. -/
def binaryOperators : List Operator :=
  [⟨[":="], 0, ":="⟩, ⟨["OR", "||"], 1, "OR"⟩, ⟨["AND", "&&"], 2, "AND"⟩, ⟨["XOR"], 2, "XOR"⟩,
    ⟨["=", "=="], 3, "="⟩, ⟨["<>", "!="], 3, "<>"⟩, ⟨["<=>"], 3, "<=>"⟩,
    ⟨["<"], 4, "<"⟩, ⟨[">"], 4, ">"⟩, ⟨["<="], 4, "<="⟩, ⟨[">="], 4, ">="⟩,
    ⟨["|"], 6, "|"⟩, ⟨["&"], 6, "&"⟩, ⟨["^"], 6, "^"⟩, ⟨["??"], 6, "??"⟩,
    ⟨["+"], 7, "+"⟩, ⟨["-"], 7, "-"⟩, ⟨["%", "MOD"], 7, "%"⟩, ⟨["COLLATE"], 7, "COLLATE"⟩,
    ⟨["*"], 8, "*"⟩, ⟨["/"], 8, "/"⟩, ⟨["DIV"], 8, "DIV"⟩,
    ⟨["<->"], 8, "<->"⟩]

/-- The strength of a negation's operand, in which tests and comparisons are read. -/
def equality : Nat := 3

/-- The strength of tests such as LIKE and BETWEEN. -/
def testStrength : Nat := 5

/-- The strength from which an expression holds arithmetic only. -/
def arithmetic : Nat := 6

/-- The strength of sums, in which bits are not combined. -/
def sum : Nat := 7

/-- An operation, with the comments behind its operator. The collation of a text is a word, so it is written
without quotes. -/
def joined (operator : String) (comments : List String) (left right : Expr) : Expr :=
  let text := withComments operator (comments.filter (· != ""))
  match operator, right.plain with
  | "??", _ => .builtin "COALESCE" [left, right]
  | "COLLATE", .name [⟨word, false⟩] => .binary text left (.word word)
  | _, _ => .binary text left right

/-- Words that call a function without parentheses. -/
def bareFunctions : List String :=
  ["CURRENT_DATE", "CURRENT_TIME", "CURRENT_TIMESTAMP", "CURRENT_USER", "LOCALTIME", "LOCALTIMESTAMP",
    "UTC_DATE", "UTC_TIME", "UTC_TIMESTAMP"]

/-- The character sets that a string may be introduced by, each behind an underscore. -/
def introducers : List String :=
  ["_ARMSCII8", "_ASCII", "_BIG5", "_BINARY", "_CP1250", "_CP1251", "_CP1256", "_CP1257", "_CP850",
    "_CP852", "_CP866", "_CP932", "_DEC8", "_EUCJPMS", "_EUCKR", "_GB18030", "_GB2312", "_GBK",
    "_GEOSTD8", "_GREEK", "_HEBREW", "_HP8", "_KEYBCS2", "_KOI8R", "_KOI8U", "_LATIN1", "_LATIN2",
    "_LATIN5", "_LATIN7", "_MACCE", "_MACROMAN", "_SJIS", "_SWE7", "_TIS620", "_UCS2", "_UJIS",
    "_UTF16", "_UTF16LE", "_UTF32", "_UTF8", "_UTF8MB3", "_UTF8MB4"]

/-- The units that an interval of a column is told in. -/
def intervalUnits : List String :=
  pluralUnits ++ pluralUnits.map (· ++ "S") ++ shortUnits.map Prod.fst ++
    ["DAY_HOUR", "DAY_MICROSECOND", "DAY_MINUTE", "DAY_SECOND", "HOUR_MICROSECOND", "HOUR_MINUTE",
      "HOUR_SECOND", "MINUTE_MICROSECOND", "MINUTE_SECOND", "SECOND_MICROSECOND", "YEAR_MONTH"]

end GormModels.Sql.Mysql

namespace GormModels.Sql.Token

open Mysql

def operator? (t : Token) : Option Operator :=
  binaryOperators.find? fun o => o.symbols.any fun s => t.isSymbol s || t.isWord s

/-- The canonical name of the type that the text of a token names. -/
def typeName? (t : Token) : Option String :=
  typeWords.lookup (Text.upperText t.text)

def isTypeWord (t : Token) : Bool :=
  t.kind == .word && t.typeName?.isSome

/-- Whether a token is a word without any role in the grammar. -/
def isFreeWord (t : Token) : Bool :=
  let upper := Text.upperText t.text
  t.kind == .word && !t.isTypeWord && upper ∉ grammarWords && upper ∉ keyPhrases && upper ∉ introducers

/-- Whether a token calls a function when a parenthesis follows it. -/
def isCallable (t : Token) : Bool :=
  t.kind == .quotedName || t.isTypeWord || t.isFreeWord ||
    (t.kind == .word && Text.upperText t.text ∈ callableWords)

def opensQuery (t : Token) : Bool := t.isWord "SELECT" || t.isWord "WITH"

/-- A token of a query as it is written before the one that follows it. -/
def inQuery (t : Token) (next : Option Token) : String :=
  match t.kind with
  | .string => quoteString t.text
  | .quotedName => quoteName t.text
  | .word =>
    if next.any (·.isSymbol "(") || !(t.isFreeWord || t.isTypeWord) then Text.upperText t.text else t.text
  | _ => .ofList t.source

/-- Whether no blank stands between two tokens of a query. -/
def touches (t next : Token) : Bool :=
  t.isSymbol "(" || t.isSymbol "." || next.isSymbol "," || next.isSymbol ")" || next.isSymbol "." ||
    (next.isSymbol "(" && t.isCallable)

end GormModels.Sql.Token

namespace GormModels.Sql.Mysql

/-- The text of a query. -/
def queryText : List Token → String
  | [] => ""
  | [t] => t.inQuery none
  | t :: next :: rest =>
    t.inQuery next ++ (if t.touches next then "" else " ") ++ queryText (next :: rest)

/-- The number of tokens up to the parenthesis that closes the one around them. -/
def balancedLength (depth : Nat) : List Token → Nat
  | [] => 0
  | t :: rest =>
    if t.isSymbol "(" then balancedLength (depth + 1) rest + 1
    else if t.isSymbol ")" then
      match depth with
      | 0 => 0
      | depth + 1 => balancedLength depth rest + 1
    else balancedLength depth rest + 1

/-- The decimal text of an amount, without leading zeros. -/
def amountText (digits : String) : String :=
  if digits.toList.all Text.isDigit then
    let kept := digits.toList.dropWhile (· == '0')
    if kept.isEmpty then "0" else .ofList kept
  else digits

/-- A number and a unit in one text, such as `1 day`. -/
def amountWithUnit? (text : String) : Option (String × String) :=
  let s := Text.trim text.toList
  let sign := s.takeWhile (· == '-')
  let number := (s.drop sign.length).takeWhile fun c => c.isDigit || c == '.'
  let unit := Text.trimLeft (s.drop (sign.length + number.length))
  if sign.length ≤ 1 && !number.isEmpty && !unit.isEmpty && unit.all Char.isAlpha then
    some (.ofList (sign ++ number), .ofList unit)
  else none

/-- An interval. Its amount is written as a string if it is a number, and a string may hold the unit. -/
def intervalOf (amount : Expr) (unit : String) : Expr :=
  match amount.plain with
  | .number s => .interval (.string (amountText s)) (singularUnit unit)
  | .unary "-" (.number s) => .interval (.string ("-" ++ amountText s)) (singularUnit unit)
  | _ => .interval amount (singularUnit unit)

open Reading

/-- The operator that comes next, if it binds at least as tightly as `strength`, with its comments. Those of
operators on bits count for nothing, and a shift is two signs. -/
def binaryOperator (strength : Nat) : Reading (Option (Operator × List String)) := do
  let single : Reading (Option (Operator × List String)) := do
    match ← takeIf fun t => t.operator?.any (strength ≤ ·.strength) with
    | none => return none
    | some t => return t.operator?.map fun o => (o, if o.strength == arithmetic then [] else t.comments)
  match ← get with
  | t :: u :: rest =>
    match ["<", ">"].find? fun s => t.isSymbol s && u.isSymbol s with
    | some s =>
      if strength ≤ arithmetic then
        set rest
        return some (⟨[s ++ s], arithmetic, s ++ s⟩, [])
      else return none
    | none => single
  | _ => single

/-- Expressions parted by commas, each with the comments behind its comma. -/
def exprList (item : Reading (Option Expr)) : Reading (List Expr) := do
  commaSeparated Expr.noted item (← get).length

/-- A name behind an expression, with or without AS. -/
def aliased (e : Expr) : Reading Expr := do
  let explicit ← word "AS"
  match ← takeIf fun t => t.isPlainName || t.kind == .string || (explicit && t.isAnyName) with
  | some t => return .named e t.toName
  | none => return e

/-- A variable behind its sign, or the place of a parameter. -/
def placeholder : Reading (Option Expr) := do
  let start ← get
  if ← symbol "?" then return some (.word "?")
  else if ← symbol "@" then
    match ← takeIf Token.isAnyName with
    | some t =>
      let inner : Expr := match t.kind with
        | .string => .string t.text
        | .quotedName => .name [t.toName]
        | _ => .word t.text
      return some (.noted (.unary "@" inner) t.comments)
    | none =>
      set start
      return none
  else if ← symbol ":" then
    match ← takeIf fun t => t.isPlainName || t.kind == .number with
    | some t => return some (.word (":" ++ t.text))
    | none =>
      set start
      return none
  else return none

/-- A column's name, or a variable. -/
def nameOrPlaceholder (anyToken : Bool) : Reading (Option Expr) := do
  match ← takeIf fun t => t.isPlainName || (anyToken && t.isAnyName) with
  | some t => return some (.noted (.name [t.toName]) t.comments)
  | none => placeholder

/-- A query up to the parenthesis that closes the one around it. -/
def query : Reading Expr := do
  let tokens ← get
  let n := balancedLength 0 tokens
  set (tokens.drop n)
  return .query (queryText (tokens.take n))

/-- Requires what a grammar cannot do without. -/
def required {α : Type} (r : Reading (Option α)) : Reading α := do
  match ← r with
  | some a => return a
  | none => fail .expressionExpected

/-- The unit that an interval is told in, if any. -/
def intervalUnit : Reading String := do
  if ← atWord "AS" then return ""
  else return (← anyName).elim "" fun n => Text.upperText n.text

/-- The type that a quoted or unquoted word names: a type of the dialect if the text starts with its word. -/
def namedType (t : Token) : Reading TypeHead :=
  if t.kind == .quotedName then
    match tokenize t.text.toList with
    | .error place => fail (.unreadableType t.text place)
    | .ok tokens =>
      return match (tokens.head?.filter (·.kind == .word)).bind (·.typeName?) with
        | some name => .known name
        | none => .custom t.text
  else
    return match t.typeName? with
      | some name => .known name
      | none => .custom t.text

/-- The parts behind the points of a qualified type. -/
def typeQualifiers : Reading String := do
  let parts ← many do
    if ← symbol "." then
      return some ("." ++ ((← takeIf Token.isAnyName).elim "None" Token.text))
    else return none
  return String.join parts

/-- The name of a type of the dialect with what is said of its time zone. One that has a zone or takes the
local one is complete. -/
def timeZone (name : String) : Reading (String × Bool) := do
  if name ∈ zonedTypes then
    if ← keywords ["WITH", "TIME", "ZONE"] then
      return (if name == "TIME" || name == "TIMETZ" then "TIMETZ" else "TIMESTAMPTZ", true)
    else if ← keywords ["WITH", "LOCAL", "TIME", "ZONE"] then return ("TIMESTAMPLTZ", true)
    else
      let _ ← keywords ["WITHOUT", "TIME", "ZONE"]
      return (name, false)
  else return (name, false)

/-- The unit behind the word INTERVAL where it is a type, or the two units of a span. -/
def typeUnit : Reading (Option String) := do
  let part : Reading (Option String) := do
    match ← takeIf Token.isFreeWord with
    | some t => return some (Text.upperText t.text)
    | none => return (← placeholder).map Expr.render
  match ← part with
  | none => return none
  | some unit =>
    if (← keyword ["TO"]).isSome then return some (unit ++ " TO " ++ (← part).getD "")
    else return some unit

mutual

/-- An expression whose operators bind at least as tightly as `strength`. A time zone behind an operand
counts for nothing. -/
def expression (fuel strength : Nat) : Reading (Option Expr) :=
  match fuel with
  | 0 => return none
  | fuel + 1 => do
    match ← operand fuel with
    | none => return none
    | some left =>
      if ← keywords ["AT", "TIME", "ZONE"] then
        let _ ← required (operand fuel)
      some <$> continueWith fuel strength left

/-- The operators and tests that continue an expression. -/
def continueWith (fuel strength : Nat) (left : Expr) : Reading Expr :=
  match fuel with
  | 0 => return left
  | fuel + 1 => do
    let start ← get
    match ← binaryOperator strength with
    | some (o, comments) =>
      match ← expression fuel (o.strength + 1) with
      | some right => continueWith fuel strength (joined o.text comments left right)
      | none =>
        if o.text == "DIV" then
          set start
          return left
        else fail .expressionExpected
    | none =>
      if testStrength < strength then return left
      match ← test fuel left with
      | some e => continueTest fuel strength e
      | none => return left

/-- What continues an expression behind a test: another test by IS, then weaker operators. -/
def continueTest (fuel strength : Nat) (left : Expr) : Reading Expr :=
  match fuel with
  | 0 => return left
  | fuel + 1 => do
    let tested ← if ← atWord "IS" then do
        match ← test fuel left with
        | some e => pure e
        | none => pure left
      else pure left
    let weaker : Bool := (← peek).any fun t => t.operator?.any (·.strength < testStrength)
    if weaker then continueWith fuel strength tested else return tested

/-- A test such as IS, IN, LIKE or BETWEEN behind its subject, or nothing. -/
def test (fuel : Nat) (left : Expr) : Reading (Option Expr) :=
  match fuel with
  | 0 => return none
  | fuel + 1 => do
    let start ← get
    let negated ← word "NOT"
    let sign (e : Expr) : Expr := if negated then .unary "NOT" e else e
    match ← oneOf ["BETWEEN", "GLOB", "ILIKE", "IN", "IS", "ISNULL", "LIKE", "MEMBER OF", "NOTNULL", "NULL",
        "OVERLAPS", "REGEXP", "RLIKE", "SIMILAR TO", "SOUNDS LIKE"] with
    | some "BETWEEN" =>
      let low ← required (expression fuel arithmetic)
      let _ ← word "AND"
      let high ← required (expression fuel arithmetic)
      return some (sign (.binary "BETWEEN" left (.binary "AND" low high)))
    | some "IN" =>
      if ← symbol "(" then
        let items ← exprList (argument fuel true)
        let comments ← closing
        return some (sign (.noted (.binary "IN" left (.tuple items)) comments))
      else return some (sign (.binary "IN" left (← required (column fuel))))
    | some "IS" =>
      let negatedAfter ← word "NOT"
      let sign (e : Expr) : Expr := if negatedAfter then .unary "NOT" e else e
      if ← words ["DISTINCT", "FROM"] then
        let e := Expr.binary "<=>" left (← required (expression fuel arithmetic))
        return some (if negatedAfter then e else .unary "NOT" e)
      else if ← word "UNKNOWN" then return some (sign (.binary "IS" left .null))
      else
        match ← expression fuel arithmetic with
        | some e => return some (sign (.binary "IS" left e))
        | none =>
          set start
          return none
    | some "SOUNDS LIKE" =>
      let right ← required (expression fuel sum)
      return some (sign (.binary "=" (.builtin "SOUNDEX" [left]) (.builtin "SOUNDEX" [right])))
    | some "MEMBER OF" =>
      let items ← wrapped (required (expression fuel 0))
      return some (sign (.phrase [left, .builtin "MEMBER OF" [items]]))
    | some "ISNULL" => return some (sign (.binary "IS" left .null))
    | some "NOTNULL" => return some (sign (.unary "NOT" (.binary "IS" left .null)))
    | some "NULL" =>
      if negated then return some (.unary "NOT" (.binary "IS" left .null))
      else
        set start
        return none
    | some operator =>
      let right ← required (expression fuel arithmetic)
      let e : Expr := match operator with
        | "REGEXP" | "RLIKE" => .builtin "REGEXP_LIKE" [left, right]
        | "ILIKE" => .binary "LIKE" (.builtin "LOWER" [left]) (.builtin "LOWER" [right])
        | operator => .binary operator left right
      if ← word "ESCAPE" then return some (sign (.binary "ESCAPE" e (← required (primary fuel))))
      else return some (sign e)
    | none => return if negated then some (.unary "NOT" left) else none

/-- An operator before its operand, or an atom. The exclamation mark binds more tightly than the word NOT,
which its parentheses say. -/
def operand (fuel : Nat) : Reading (Option Expr) :=
  match fuel with
  | 0 => return none
  | fuel + 1 => do
    if ← symbol "+" then operand fuel
    else if ← symbol "-" then return some (.unary "-" (← required (operand fuel)))
    else if ← symbol "~" then return some (.unary "~" (← required (operand fuel)))
    else if ← symbol "!" then return some (.paren (.unary "NOT" (← required (operand fuel))))
    else if ← word "NOT" then return some (.unary "NOT" (← required (expression fuel equality)))
    else atom fuel

/-- An interval, a literal behind its type, or a column. -/
def atom (fuel : Nat) : Reading (Option Expr) :=
  match fuel with
  | 0 => return none
  | fuel + 1 => do
    let start ← get
    let special ← if start.head?.any (·.isWord "INTERVAL") then interval fuel else literalOfType fuel
    match special with
    | some e => some <$> steps fuel e
    | none =>
      set start
      column fuel

/-- An interval with its unit. A lone word behind INTERVAL must be followed by a unit, else the word is no
amount. -/
def interval (fuel : Nat) : Reading (Option Expr) :=
  match fuel with
  | 0 => return none
  | fuel + 1 => do
    let _ ← word "INTERVAL"
    let amount ← if (← peek).any (·.kind == .string) then primary fuel else expression fuel sum
    let next ← peek
    match amount with
    | none => return none
    | some amount =>
      let stray : Bool := match amount.plain with
        | .name [n] => !n.quoted && next.any fun t => t.keyText ∉ intervalUnits
        | _ => false
      if stray then return none
      match amount.plain with
      | .string s =>
        match amountWithUnit? s with
        | some (n, unit) => return some (intervalOf (.string n) (Text.upperText unit))
        | none => return some (intervalOf amount (← intervalUnit))
      | _ => return some (intervalOf amount (← intervalUnit))

/-- A string or a number behind a type. -/
def literalOfType (fuel : Nat) : Reading (Option Expr) :=
  match fuel with
  | 0 => return none
  | fuel + 1 => do
    match ← get with
    | t :: rest =>
      if t.isTypeWord && !t.isWord "NULL" then
        let called := rest.head?.any (·.isSymbol "(")
        match ← dataType fuel with
        | none => return none
        | some type =>
          match ← get with
          | l :: more =>
            if l.kind == .string && !more.head?.any (·.kind == .string) then
              set more
              return some (typedLiteral type (.string l.text))
            else if l.kind == .number && !called then
              set more
              return some (typedLiteral type (.number l.text))
            else return none
          | [] => return none
      else return none
    | [] => return none

/-- A column, a call or a literal, with what is taken out of it. -/
def column (fuel : Nat) : Reading (Option Expr) :=
  match fuel with
  | 0 => return none
  | fuel + 1 => do
    match ← field fuel false with
    | some e => some <$> steps fuel e
    | none => return none

/-- The qualifiers, paths and types that follow a column. -/
def steps (fuel : Nat) (e : Expr) : Reading Expr :=
  match fuel with
  | 0 => return e
  | fuel + 1 => do
    if ← symbol "." then
      match ← field fuel true with
      | none => return e
      | some part =>
        match e.plain, part.plain with
        | .name parts, .name more =>
          steps fuel (.noted (.name (parts ++ more)) (e.comments ++ part.comments))
        | _, _ => steps fuel (.member e part)
    else if ← symbol "->" then
      let path ← required (column fuel)
      steps fuel (.builtin "JSON_EXTRACT" [e, path])
    else if ← symbol "->>" then
      let path ← required (column fuel)
      steps fuel (.binary "->>" e path)
    else if ← symbol "::" then
      match ← dataType fuel with
      | some type => steps fuel (castOf e type)
      | none => fail .typeExpected
    else return e

/-- A literal or a parenthesis, else a call, else a name. -/
def field (fuel : Nat) (anyToken : Bool) : Reading (Option Expr) :=
  match fuel with
  | 0 => return none
  | fuel + 1 => do
    match ← primary fuel with
    | some e => return some e
    | none =>
      match ← call fuel anyToken with
      | some e => return some e
      | none => nameOrPlaceholder anyToken

/-- A literal, a list in parentheses, a star or a variable of the session. -/
def primary (fuel : Nat) : Reading (Option Expr) :=
  match fuel with
  | 0 => return none
  | fuel + 1 => do
    match ← get with
    | [] => return none
    | t :: rest =>
      let literal (e : Expr) : Reading (Option Expr) := do
        set rest
        return some (e.noted t.comments)
      match t.kind with
      | .string =>
        set rest
        let first := Expr.noted (.string t.text) t.comments
        let more ← many (takeIf (·.kind == .string))
        match more.getLast? with
        | none => return some first
        | some last =>
          return some (.noted (.builtin "CONCAT" (first :: more.map (.string ·.text))) last.comments)
      | .nationalString => literal (.nationalString t.text)
      | .number => literal (.number t.text)
      | .bits => literal (.bits t.text)
      | .hex => literal (.hex t.text)
      | .quotedName | .variable => return none
      | .symbol =>
        match t.text with
        | "(" =>
          set rest
          if rest.head?.any Token.opensQuery then
            let e ← query
            return some (.noted (.paren e) (t.comments ++ (← closing)))
          else
            let items ← exprList do
              match ← expression fuel 0 with
              | some e => some <$> aliased e
              | none => return none
            let comments := t.comments ++ (← closing)
            match items with
            | [e] => return some (.noted (.paren e) comments)
            | _ => return some (.noted (.tuple items) comments)
        | "*" => literal .star
        | "." =>
          match rest with
          | n :: rest =>
            if n.kind == .number then
              set rest
              return some (.number ("0." ++ n.text))
            else return none
          | [] => return none
        | "@@" =>
          set rest
          match ← takeIf Token.isAnyName with
          | none => fail .nameExpected
          | some kind =>
            if ← symbol "." then
              let name ← takeIf Token.isAnyName
              return some (.unary "@@" (.word (kind.text ++ "." ++ name.elim "" Token.text)))
            else if kind.kind == .quotedName then return some (.unary "@@" (.name [kind.toName]))
            else return some (.unary "@@" (.word kind.text))
        | _ => return none
      | .word =>
        match Text.upperText t.text with
        | "NULL" => literal .null
        | "TRUE" => literal (.boolean true)
        | "FALSE" => literal (.boolean false)
        | upper =>
          if upper ∈ introducers then
            set rest
            match ← primary fuel with
            | some e => return some (.unary t.text e)
            | none => return some (.name [t.toName])
          else return none

/-- A call, or a word that calls a function without parentheses. -/
def call (fuel : Nat) (anyToken : Bool) : Reading (Option Expr) :=
  match fuel with
  | 0 => return none
  | fuel + 1 => do
    match ← get with
    | [] => return none
    | t :: rest =>
      let upper := t.keyText
      let called := rest.head?.any (·.isSymbol "(")
      if t.isWord "CASE" then
        set rest
        let subject ← expression fuel 0
        let clauses ← many (clause fuel)
        let otherwise ← if ← word "ELSE" then expression fuel 0 else pure none
        match ← takeIf (·.isWord "END") with
        | none => failAtLast .endExpected
        | some last =>
          let whole := Expr.caseOf
            (subject.toList ++ clauses.flatten ++ (otherwise.map (.unary "ELSE")).toList)
          return some (whole.noted (if t.comments.isEmpty then last.comments else t.comments))
      else if t.isWord "IF" && !called then
        set rest
        match ← expression fuel 0 with
        | none =>
          set (t :: rest)
          return none
        | some condition =>
          let _ ← word "THEN"
          let yes ← required (expression fuel 0)
          let no ← if ← word "ELSE" then expression fuel 0 else pure none
          let _ ← word "END"
          return some (.choice condition yes no)
      else if t.isWord "ANY" then
        set rest
        return (← expression fuel arithmetic).map (.phrase [.word "ANY", ·])
      else if called then
        if t.isCallable || (anyToken && t.isAnyName) then
          set (rest.drop 1)
          let e ← arguments fuel t upper
          return some (e.noted (← closing))
        else return none
      else if t.kind == .word && upper ∈ bareFunctions then
        set rest
        return some (.noted (.ofBuiltin upper []) t.comments)
      else return none

/-- One condition of a CASE with its value. -/
def clause (fuel : Nat) : Reading (Option (List Expr)) :=
  match fuel with
  | 0 => return none
  | fuel + 1 => do
    if ← word "WHEN" then
      let condition ← required (expression fuel 0)
      let _ ← word "THEN"
      let value ← required (expression fuel 0)
      return some [.unary "WHEN" condition, .unary "THEN" value]
    else return none

/-- The call of `t` from its arguments on, up to the closing parenthesis. -/
def arguments (fuel : Nat) (t : Token) (upper : String) : Reading Expr :=
  match fuel with
  | 0 => fail .expressionExpected
  | fuel + 1 => do
    match upper with
    | "CAST" =>
      let value ← required (expression fuel 0)
      unless ← word "AS" do fail .asExpected
      match ← dataType fuel with
      | none => fail .typeExpected
      | some type =>
        let charset ← if type.head == .known "CHAR" then oneOf ["CHARACTER SET", "CHARSET"] else pure none
        match charset with
        | some _ => return .cast value ("CHAR CHARACTER SET " ++ (← stringOrWord).getD "")
        | none => return castOf value type
    | "CONVERT" =>
      let value ← required (expression fuel arithmetic)
      if ← word "USING" then return .cast value ("CHAR CHARACTER SET " ++ (← stringOrWord).getD "")
      else if ← symbol "," then return castOf value (← required (dataType fuel))
      else fail .expressionExpected
    | "EXTRACT" =>
      let unit ← required do
        match ← call fuel false with
        | some e => return some e
        | none => return (← stringOrWord).map fun s => Expr.word (Text.upperText s)
      if (← word "FROM") || (← symbol ",") then
        return .builtin "EXTRACT" [.phrase [unit, .word "FROM", ← required (expression fuel arithmetic)]]
      else failAtLast .sourceExpected
    | "TRIM" =>
      let side ← keyword ["BOTH", "LEADING", "TRAILING"]
      let first ← expression fuel arithmetic
      let fromWord ← word "FROM"
      let comma ← if fromWord then pure false else symbol ","
      let second ← if fromWord || comma then expression fuel arithmetic else pure none
      let (subject, removed) := if fromWord then (second, first) else (first, second)
      match subject, removed with
      | some e, none =>
        let name := match side with
          | some "LEADING" => "LTRIM"
          | some "TRAILING" => "RTRIM"
          | _ => "TRIM"
        return .builtin name [e]
      | some e, some r =>
        return .builtin "TRIM" [.phrase ((side.map Expr.word).toList ++ [r, .word "FROM", e])]
      | none, _ => fail .expressionExpected
    | "POSITION" =>
      let items ← exprList (expression fuel arithmetic)
      if ← word "IN" then
        return .builtin "LOCATE" (items.take 1 ++ [← required (expression fuel arithmetic)])
      else return .ofBuiltin "LOCATE" items
    | "SUBSTRING" | "SUBSTR" =>
      let items ← exprList (expression fuel arithmetic)
      let start ← if ← word "FROM" then expression fuel arithmetic else pure none
      let length ← if ← word "FOR" then expression fuel arithmetic else pure none
      let start := if length.isSome then start <|> some (.number "1") else start
      let items := items ++ start.toList ++ length.toList
      if 3 < items.length then fail (.tooManyArguments items.length 3)
      return .builtin "SUBSTRING" items
    | "CHAR" | "CHR" =>
      let items ← exprList (expression fuel 0)
      if ← word "USING" then
        let charset := Expr.word ((← stringOrWord).getD "")
        match items.getLast? with
        | some e => return .builtin "CHAR" (items.dropLast ++ [.phrase [e, .word "USING", charset]])
        | none => fail .expressionExpected
      else return .builtin "CHAR" items
    | "VALUES" => return .builtin "VALUES" ((← anyName).map fun n => Expr.name [n]).toList
    | _ =>
      match functionForm? upper with
      | none =>
        let items ← exprList (argument fuel false)
        return .call t.toName items
      | some form =>
        let items ← exprList (argument fuel true)
        if let some limit := form.limit then
          if limit < items.length then fail (.tooManyArguments items.length limit)
        let name := form.names.headD upper
        match name, items with
        | "DATE_ADD", [date, .interval amount unit] => return .shifted "DATE_ADD" date amount unit
        | "DATE_SUB", [date, .interval amount unit] => return .shifted "DATE_SUB" date amount unit
        | "DATE_ADD", _ :: e :: _ => fail (.intervalExpected e.render)
        | "DATE_SUB", _ :: e :: _ => fail (.intervalExpected e.render)
        | _, _ => return .ofBuiltin name items

/-- One argument of a call; one of an unknown function may have a name of its own. -/
def argument (fuel : Nat) (known : Bool) : Reading (Option Expr) :=
  match fuel with
  | 0 => return none
  | fuel + 1 => do
    match ← get with
    | t :: sign :: rest =>
      if t.isAnyName && (sign.isSymbol "->" || sign.isSymbol "=>") then
        set rest
        return some (.binary sign.text (.name [t.toName]) (← required (expression fuel 0)))
    | _ => pure ()
    if (← peek).any Token.opensQuery then return some (← query)
    else if (← oneOf ["DISTINCT", "DISTINCTROW"]).isSome then
      return some (.phrase [.word "DISTINCT", ← required (expression fuel 0)])
    else
      match ← expression fuel 0 with
      | some e => if known then return some e else some <$> aliased e
      | none => return none

/-- A data type, which brackets behind it make an array of. -/
def dataType (fuel : Nat) : Reading (Option DataType) :=
  match fuel with
  | 0 => return none
  | fuel + 1 => do
    match ← plainType fuel with
    | some type => some <$> arrays fuel type
    | none => return none

/-- The brackets behind a type, each of which makes an array of it. -/
def arrays (fuel : Nat) (type : DataType) : Reading DataType :=
  match fuel with
  | 0 => return type
  | fuel + 1 => do
    if ← symbol "[" then
      let bounds ← exprList (expression fuel 1)
      let _ ← symbol "]"
      arrays fuel { head := .known "ARRAY", params := [.word type.render], nested := true, bounds }
    else return type

/-- A word of the dialect or of the user's with its parameters, or nothing. A parameter list that does not
close makes the whole no type. -/
def plainType (fuel : Nat) : Reading (Option DataType) :=
  match fuel with
  | 0 => return none
  | fuel + 1 => do
    match ← takeIf fun t => t.isTypeWord || t.isFreeWord || t.kind == .quotedName with
    | none => return none
    | some t =>
      let rest ← get
      let head ← namedType t
      let head ← match head with
        | .custom word => pure (TypeHead.custom (word ++ (← typeQualifiers)))
        | head => pure head
      let nested := match head with
        | .known name => name ∈ nestedTypes
        | .custom _ => false
      let opened ← symbol "("
      let params ← if opened then exprList (typeParam fuel head) else pure []
      let closed ← if opened then symbol ")" else pure true
      if !closed then
        set (t :: rest)
        return none
      let params ←
        if nested && (← symbol "<") then do
          let inner ← exprList (typeParam fuel head)
          unless ← symbol ">" do fail .bracketExpected
          pure inner
        else pure params
      match head with
      | .custom _ => return some { head, params }
      | .known name =>
        let (name, complete) ← timeZone name
        if complete then return some { head := .known name, params }
        else if name == "INTERVAL" then
          return some { head := .known name, params, unit := ← typeUnit }
        else if (← keyword ["UNSIGNED"]).isSome then
          if name ∈ unsignedTypes then return some { head := .known name, params, unsigned := true }
          else fail (.notUnsigned name)
        else
          let _ ← keyword ["SIGNED"]
          return some { head := .known name, params, nested }

/-- One parameter of a type: a type within a nested one, any expression in the list of an enumeration, else
an atom, of which a lone word is taken in upper case. A word behind an atom counts for nothing. -/
def typeParam (fuel : Nat) (head : TypeHead) : Reading (Option Expr) :=
  match fuel with
  | 0 => return none
  | fuel + 1 => do
    if head ∈ structTypes.map TypeHead.known then typedField fuel
    else if head ∈ nestedTypes.map TypeHead.known then
      return (← dataType fuel).map fun type => Expr.word type.render
    else if head ∈ [.known "ENUM", .known "SET"] then expression fuel equality
    else
      match ← atom fuel with
      | none => return none
      | some value =>
        let _ ← takeIf Token.isAnyName
        match value.plain with
        | .name [n] => return some (.word (Text.upperText n.text))
        | _ => return some value

/-- A part of a structure: a name with a type, or a type alone. -/
def typedField (fuel : Nat) : Reading (Option Expr) :=
  match fuel with
  | 0 => return none
  | fuel + 1 => do
    let start ← get
    let name ← anyName
    let _ ← symbol ":"
    if (← peek).any Token.isTypeWord then
      let type ← dataType fuel
      return some (.phrase ((name.map fun n => Expr.name [n]).toList ++
        (type.map fun type => Expr.word type.render).toList))
    else
      set start
      return (← dataType fuel).map fun type => Expr.word type.render

end

/-- Enough fuel for any grammar over the tokens at hand. -/
def withFuel {α : Type} (r : Nat → Reading α) : Reading α := do
  r (12 * (← get).length + 20)

end GormModels.Sql.Mysql
