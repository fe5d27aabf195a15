/-!
Patterns of points in time, such as `%Y-%m-%d`, in their canonical form. A pattern is read into codes that do
not depend on the dialect and written from these again, so hour, minute and second in a row become `%T`.
-/

namespace GormModels.Sql.Mysql.TimeFormat

/-- The fields of a pattern with the codes that they are read as. -/
def codes : List (String × String) :=
  [("%M", "%B"), ("%c", "%-m"), ("%e", "%-d"), ("%h", "%I"), ("%i", "%M"), ("%s", "%S"), ("%u", "%W"),
    ("%k", "%-H"), ("%l", "%-I"), ("%T", "%H:%M:%S"), ("%W", "%A")]

/-- The codes with the fields that they are written as. -/
def fields : List (String × String) :=
  codes.map fun (field, code) => (code, field)

/-- The longest key that a text starts with, and what it stands for. -/
def longest? (table : List (String × String)) (s : List Char) : Option (String × String) :=
  (table.filter fun entry => entry.1.toList.isPrefixOf s).foldl
    (fun best entry => match best with
      | some b => if b.1.length < entry.1.length then some entry else best
      | none => some entry) none

/-- Replaces keys from left to right. A text that breaks off within a key is kept as it is. -/
def substitute (table : List (String × String)) : List Char → List Char
  | [] => []
  | c :: rest =>
    match longest? table (c :: rest) with
    | some (key, value) => value.toList ++ substitute table (rest.drop (key.length - 1))
    | none =>
      if table.any fun entry => (c :: rest).isPrefixOf entry.1.toList then c :: rest
      else c :: substitute table rest
termination_by s => s.length
decreasing_by all_goals (simp only [List.length_cons, List.length_drop]; omega)

/-- The canonical form of a pattern. -/
def canonical (pattern : String) : String :=
  .ofList (substitute fields (substitute codes pattern.toList))

end GormModels.Sql.Mysql.TimeFormat
