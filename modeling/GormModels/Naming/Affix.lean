import GormModels.Text.Blank
import GormModels.Text.Split

/-!
Removing configured beginnings from names. A beginning counts only where it ends a word: it ends with an
underscore itself or one follows it in the name.
-/

namespace GormModels.Naming

/-- Longer beginnings come first, and those of one length in alphabetical order. -/
def tryBefore (a b : List Char) : Bool :=
  if a.length = b.length then !List.lex b a (· < ·) else b.length < a.length

/-- The beginnings that a comma-separated list names, each once, in the order in which they are tried. -/
def beginnings (list : String) : List (List Char) :=
  let parts := ((Text.split ',' list.toList).map Text.trim).filter (!·.isEmpty)
  parts.eraseDups.mergeSort tryBefore

/-- What is left of a name without a beginning, if that ends a word and leaves something. -/
def without? (name beginning : List Char) : Option (List Char) :=
  if beginning.isPrefixOf name then
    let rest := name.drop beginning.length
    if beginning.getLast? == some '_' then
      if rest.isEmpty then none else some rest
    else if rest.head? == some '_' then
      let rest := rest.dropWhile (· == '_')
      if rest.isEmpty then none else some rest
    else none
  else none

def stripBeginning (name : List Char) (list : String) : List Char :=
  ((beginnings list).findSome? (without? name)).getD name

def stripText (name list : String) : String := .ofList (stripBeginning name.toList list)

end GormModels.Naming
