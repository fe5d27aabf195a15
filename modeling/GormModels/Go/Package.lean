/-!
Names of Go packages.
-/

namespace GormModels.Go

def keywords : List String :=
  ["break", "case", "chan", "const", "continue", "default", "defer", "else", "fallthrough", "for",
    "func", "go", "goto", "if", "import", "interface", "map", "package", "range", "return", "select",
    "struct", "switch", "type", "var"]

def isNameStart (c : Char) : Bool := c.isAlpha || c == '_'

def isNameChar (c : Char) : Bool := c.isAlphanum || c == '_'

/-- An identifier of ASCII characters that is no keyword. A line feed at the end is let pass. -/
def isPackageName (name : String) : Bool :=
  let isIdentifier := match name.toList with
    | c :: rest =>
      isNameStart c && match rest.reverse with
        | '\n' :: chars => chars.all isNameChar
        | chars => chars.all isNameChar
    | [] => false
  isIdentifier && name ∉ keywords

end GormModels.Go
