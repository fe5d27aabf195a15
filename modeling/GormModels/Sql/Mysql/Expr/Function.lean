import GormModels.Sql.Mysql.Expr
import GormModels.Sql.Mysql.Expr.TimeFormat

/-!
The functions that the dialect knows. Each is written under one name and takes a limited number of
arguments; some calls are written as an operator, a CASE or the call of another function.
-/

namespace GormModels.Sql.Mysql

/-- A function with the names that it is called by, the first of which it is written under, and the most
arguments that it takes. -/
structure FunctionForm where
  names : List String
  limit : Option Nat

def functionForms : List FunctionForm :=
  [⟨["ABS"], some 1⟩, ⟨["ACOS"], some 1⟩, ⟨["ASCII"], some 1⟩, ⟨["ASIN"], some 1⟩, ⟨["ATAN"], some 2⟩,
    ⟨["ATAN2"], some 2⟩, ⟨["AVG"], some 1⟩, ⟨["BIT_COUNT"], some 1⟩, ⟨["CEIL", "CEILING"], some 3⟩,
    ⟨["CHAR_LENGTH", "CHARACTER_LENGTH", "LEN"], some 3⟩, ⟨["COALESCE", "IFNULL", "NVL"], none⟩,
    ⟨["CONCAT"], none⟩, ⟨["CONCAT_WS"], none⟩, ⟨["CONVERT_TZ"], some 4⟩, ⟨["COS"], some 1⟩,
    ⟨["COT"], some 1⟩, ⟨["COUNT"], none⟩, ⟨["CURRENT_DATE", "CURDATE"], some 1⟩,
    ⟨["CURRENT_TIME", "CURTIME"], some 1⟩, ⟨["CURRENT_TIMESTAMP"], some 2⟩,
    ⟨["CURRENT_USER"], some 1⟩, ⟨["DATE"], some 4⟩, ⟨["DATEDIFF", "DATE_DIFF"], some 6⟩,
    ⟨["DATE_ADD"], some 3⟩, ⟨["DATE_FORMAT"], some 4⟩, ⟨["DATE_SUB"], some 3⟩, ⟨["DAY"], some 1⟩,
    ⟨["DAYNAME"], some 2⟩, ⟨["DAYOFMONTH", "DAY_OF_MONTH"], some 1⟩,
    ⟨["DAYOFWEEK", "DAY_OF_WEEK"], some 1⟩, ⟨["DAYOFYEAR", "DAY_OF_YEAR"], some 1⟩,
    ⟨["DEGREES"], some 1⟩, ⟨["EXP"], some 1⟩, ⟨["FLOOR"], some 3⟩, ⟨["FORMAT"], some 3⟩,
    ⟨["FROM_UNIXTIME"], some 7⟩, ⟨["GREATEST"], none⟩, ⟨["HEX", "TO_HEX"], some 1⟩,
    ⟨["HOUR"], some 1⟩, ⟨["IF", "IIF"], some 3⟩, ⟨["INITCAP"], some 2⟩, ⟨["INSERT", "STUFF"], some 4⟩,
    ⟨["ISNULL"], none⟩, ⟨["JSON_ARRAY"], none⟩, ⟨["JSON_EXTRACT"], none⟩, ⟨["JSON_OBJECT"], none⟩,
    ⟨["LAST_DAY", "LAST_DAY_OF_MONTH"], some 2⟩, ⟨["LEAST"], none⟩, ⟨["LEFT"], some 2⟩,
    ⟨["LENGTH"], some 3⟩, ⟨["LN"], some 1⟩, ⟨["LOCALTIME"], some 1⟩, ⟨["LOCALTIMESTAMP"], some 1⟩,
    ⟨["LOCATE", "CHARINDEX"], some 5⟩, ⟨["LOG"], some 2⟩, ⟨["LOG10"], some 2⟩, ⟨["LOG2"], some 2⟩,
    ⟨["LOWER", "LCASE"], some 1⟩, ⟨["LPAD"], some 4⟩, ⟨["LTRIM"], some 4⟩, ⟨["MAKETIME"], some 6⟩,
    ⟨["MAX"], none⟩, ⟨["MD5"], some 1⟩, ⟨["MIN"], none⟩, ⟨["MINUTE"], some 1⟩, ⟨["MOD"], none⟩,
    ⟨["MONTH"], some 1⟩, ⟨["MONTHNAME"], some 4⟩, ⟨["NULLIF"], some 2⟩, ⟨["NVL2"], some 3⟩,
    ⟨["PI"], some 0⟩, ⟨["POWER", "POW"], some 2⟩, ⟨["QUARTER"], some 1⟩, ⟨["RADIANS"], some 1⟩,
    ⟨["RAND", "RANDOM"], some 3⟩, ⟨["REGEXP_LIKE"], none⟩, ⟨["REGEXP_REPLACE"], none⟩,
    ⟨["REPEAT"], some 2⟩, ⟨["REPLACE"], some 3⟩, ⟨["REVERSE"], some 1⟩, ⟨["RIGHT"], some 2⟩,
    ⟨["ROUND"], some 4⟩, ⟨["RPAD"], some 4⟩, ⟨["RTRIM"], some 4⟩, ⟨["SCHEMA", "DATABASE"], some 1⟩,
    ⟨["SECOND"], some 1⟩, ⟨["SHA", "SHA1"], some 1⟩, ⟨["SHA2"], some 2⟩, ⟨["SIGN", "SIGNUM"], some 1⟩,
    ⟨["SIN"], some 1⟩, ⟨["SOUNDEX"], some 1⟩, ⟨["SPACE"], some 1⟩, ⟨["SQRT"], some 1⟩,
    ⟨["STRPOS", "INSTR"], some 5⟩, ⟨["STR_TO_DATE"], some 3⟩, ⟨["SUBSTRING_INDEX"], some 3⟩,
    ⟨["SUM"], some 1⟩, ⟨["TAN"], some 1⟩, ⟨["TIME"], some 2⟩, ⟨["TIMESTAMP"], some 4⟩,
    ⟨["TIMESTAMPADD"], some 3⟩, ⟨["TIMESTAMPDIFF"], some 3⟩, ⟨["TO_DAYS"], none⟩,
    ⟨["TRUNCATE", "TRUNC"], none⟩, ⟨["UNHEX"], some 2⟩, ⟨["UPPER", "UCASE"], some 1⟩,
    ⟨["UTC_DATE"], some 0⟩, ⟨["UTC_TIME"], some 1⟩, ⟨["UTC_TIMESTAMP"], some 1⟩,
    ⟨["UUID", "GEN_RANDOM_UUID", "GENERATE_UUID", "UUID_STRING"], some 2⟩, ⟨["VERSION"], some 0⟩,
    ⟨["WEEK"], some 2⟩, ⟨["WEEKOFYEAR", "WEEK_OF_YEAR"], some 1⟩, ⟨["YEAR"], some 1⟩]

/-- The form of the function that an upper-case name calls. -/
def functionForm? (name : String) : Option FunctionForm :=
  functionForms.find? fun form => name ∈ form.names

/-- The units of time that have a plural. -/
def pluralUnits : List String :=
  ["DAY", "HOUR", "MICROSECOND", "MINUTE", "MONTH", "QUARTER", "SECOND", "WEEK", "YEAR"]

/-- A unit of time in the singular. -/
def singularUnit (unit : String) : String :=
  (pluralUnits.find? fun u => u ++ "S" == unit).getD unit

/-- The short names of units of time. -/
def shortUnits : List (String × String) :=
  [("D", "DAY"), ("H", "HOUR"), ("M", "MINUTE"), ("MS", "MILLISECOND"), ("NS", "NANOSECOND"),
    ("Q", "QUARTER"), ("S", "SECOND"), ("US", "MICROSECOND"), ("W", "WEEK"), ("Y", "YEAR")]

namespace Expr

/-- The unit of time that an argument names, if it names one. -/
def unitWord? : Expr → Option String
  | name [n] => some (Text.upperText ((shortUnits.lookup n.text).getD n.text))
  | string s | word s => some (Text.upperText ((shortUnits.lookup s).getD s))
  | commented e _ => e.unitWord?
  | _ => none

/-- An operand that would bind otherwise is put in parentheses. -/
def wrapOperator : Expr → Expr
  | e@(binary ..) => paren e
  | e@(builtin "POWER" _) => paren e
  | e => e

/-- What DATE( ) is called with; where only the day counts, the call adds nothing. -/
def undated : Expr → Expr
  | builtin "DATE" [e] => e
  | e => e

/-- A literal pattern in its canonical form. -/
def asPattern : Expr → Expr
  | string s => string (TimeFormat.canonical s)
  | e => e

/-- A CASE of one condition. -/
def choice (condition yes : Expr) (no : Option Expr) : Expr :=
  caseOf ([unary "WHEN" condition, unary "THEN" yes] ++ (no.map (unary "ELSE")).toList)

/-- A date and an interval that is added to it or taken from it. -/
def shifted (function : String) (date amount : Expr) (unit : String) : Expr :=
  builtin function [undated date, interval amount (if unit == "" then "DAY" else singularUnit unit)]

/-- A call of the builtin of this name, the one that its form is written under; a call that lacks arguments
is written as it stands. -/
def ofBuiltin (function : String) (arguments : List Expr) : Expr :=
  match function, arguments with
  | "CURRENT_DATE", [] => word "CURRENT_DATE"
  | "CURRENT_DATE", e :: _ => phrase [word "CURRENT_DATE", word "AT", word "TIME", word "ZONE", e]
  | "DATEDIFF", a :: b :: _ => builtin "DATEDIFF" [undated a, undated b]
  | "DATE_FORMAT", e :: pattern :: _ => builtin "DATE_FORMAT" [undated e, asPattern pattern]
  | "FROM_UNIXTIME", [e, pattern] => builtin "FROM_UNIXTIME" [e, asPattern pattern]
  | "IF", [condition, yes] => choice condition yes none
  | "IF", condition :: yes :: no :: _ => choice condition yes (some no)
  | "ISNULL", e :: _ => paren (binary "IS" e null)
  | "LOCALTIME", [] | "LOCALTIMESTAMP", [] => word function
  | "LOCATE", needle :: text :: more => builtin "LOCATE" (needle :: text :: more.take 1)
  | "STRPOS", text :: needle :: more => builtin "LOCATE" (needle :: text :: more.take 1)
  | "LOG", [e] => builtin "LN" [e]
  | "LOG10", e :: _ => builtin "LOG" [number "10", e]
  | "LOG2", e :: _ => builtin "LOG" [number "2", e]
  | "LPAD", [e, n] | "RPAD", [e, n] => builtin function [e, n, string " "]
  | "LTRIM", e :: removed :: _ => builtin "TRIM" [phrase [word "LEADING", removed, word "FROM", e]]
  | "RTRIM", e :: removed :: _ => builtin "TRIM" [phrase [word "TRAILING", removed, word "FROM", e]]
  | "MAX", e :: f :: more => builtin "GREATEST" (e :: f :: more)
  | "MIN", e :: f :: more => builtin "LEAST" (e :: f :: more)
  | "MOD", a :: b :: _ => binary "%" a.wrapOperator b.wrapOperator
  | "MONTHNAME", e :: _ => builtin "DATE_FORMAT" [e, string "%M"]
  | "NVL2", e :: yes :: more => choice (unary "NOT" (binary "IS" e null)) yes more.head?
  | "STR_TO_DATE", e :: pattern :: _ => builtin "STR_TO_DATE" [e, asPattern pattern]
  | "TIMESTAMPADD", [unit, amount, e] =>
    match unit.unitWord? with
    | some u => shifted "DATE_ADD" e amount u
    | none => builtin "TIMESTAMPADD" arguments
  | "TIMESTAMPDIFF", [unit, a, b] =>
    match unit.unitWord? with
    | some u => builtin "TIMESTAMPDIFF" [word u, a, b]
    | none => builtin "TIMESTAMPDIFF" arguments
  | "TO_DAYS", e :: _ =>
    paren (binary "+" (builtin "DATEDIFF" [e, string "0000-01-01"]) (number "1"))
  | "UPPER", [builtin "HEX" es] => builtin "HEX" es
  | _, _ => builtin function arguments

end Expr

end GormModels.Sql.Mysql
