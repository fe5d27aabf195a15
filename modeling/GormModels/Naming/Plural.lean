import GormModels.Naming.Inflection
import GormModels.Naming.Plural.Table
import GormModels.Text.Blank
import GormModels.Text.Split

/-!
Plurals of English nouns. A word that already looks like a plural is kept; others are changed by tables of
exceptions first and by their endings last.
-/

namespace GormModels.Naming.Plural

open Text

def endsWith (s : List Char) (ending : String) : Bool := ending.toList.isSuffixOf s

def endsWithOne (s : List Char) (endings : List String) : Bool := endings.any (endsWith s)

def isOne (s : List Char) (words : List String) : Bool := words.any (·.toList == s)

/-- What a table has for a word. -/
def find? (s : List Char) (table : List (String × String)) : Option (List Char) :=
  (table.find? (·.1.toList == s)).map (·.2.toList)

def isVowel (c : Char) : Bool := c ∈ ['a', 'e', 'i', 'o', 'u']

/-- The last word of a text, or the text itself where it has no words. -/
def lastWord (s : List Char) : List Char := ((words s).getLast?).getD s

def spaced (parts : List (List Char)) : List Char := [' '].intercalate parts

/-- The last two words of a text. -/
def lastPair (s : List Char) : List Char := spaced ((words s).drop ((words s).length - 2))

/-- A word without its last letters and with others in their place. -/
def change (s : List Char) (dropped : Nat) (added : String) : List Char :=
  s.take (s.length - dropped) ++ added.toList

/-- Whether the first character is its own capital, as that of a name. -/
def startsCapital (s : List Char) : Bool := s.head?.any fun c => upperChar c == [c]

def isUnchanged (word : List Char) : Bool :=
  isOne word unchangedNames || endsWithOne (lower word) unchangedEndings

/-! ### Phrases -/

/-- Every way to cut a list in two, the shortest first part first. -/
def cuts {α : Type} (s : List α) : List (List α × List α) :=
  (List.range (s.length + 1)).map fun n => (s.take n, s.drop n)

/-- A phrase at its first joining word, which is not at its start: the parts before its noun, the noun, the
joining word and the parts behind it. -/
def joined? (sep : Char) (s : List Char) :
    Option (List (List Char) × List Char × List Char × List (List Char)) :=
  (cuts (split sep s)).findSome? fun
    | (before, noun :: word :: a :: rest) =>
      if isOne word joiners then some (before, noun, word, a :: rest) else none
    | _ => none

/-- The first word of a text with a joining word behind it, with the words before and behind it. -/
def compound? (s : List Char) : Option (List (List Char) × List Char × List (List Char)) :=
  (cuts (words s)).findSome? fun
    | (before, noun :: word :: rest) => if isOne word joiners then some (before, noun, word :: rest) else none
    | _ => none

/-- Whether a word goes on with an adjective, behind a hyphen or blanks. -/
def goesOn (adjective : String) (rest : List Char) : Bool :=
  match rest with
  | '-' :: behind => adjective.toList.isPrefixOf behind
  | c :: behind => isBlank c && adjective.toList.isPrefixOf (trimLeft behind)
  | [] => false

/-- The noun of a text that goes on with an adjective, such as court-martial, and what follows it. Not every
general is an adjective: that of a rank is a noun. -/
def postfixed? (s : List Char) : Option (List Char × List Char) :=
  let small := s.flatMap fun c => (lowerChar c).take 1
  let isRank := ranks.any (·.toList.isPrefixOf small) ||
    (cuts small).any fun (_, rest) => "star".toList.isPrefixOf rest
  let generals := (List.range (s.takeWhile (!isBlank ·)).length).filter fun n =>
    goesOn "general" (small.drop (n + 1))
  match (if isRank then none else generals.getLast?) with
  | some n => some (s.take (n + 1), s.drop (n + 1))
  | none =>
    (postfixed.find? fun (noun, adjective) =>
      noun.toList.isPrefixOf small && goesOn adjective (small.drop noun.length)).map fun (noun, _) =>
        (s.take noun.length, s.drop noun.length)

/-- How many characters stand for the joint of two parts of a compound: a hyphen or blanks. -/
def jointLength : List Char → Nat
  | '-' :: _ => 1
  | s => (s.takeWhile isBlank).length

/-- The joint with an indefinite article at the start of a text, such as "-of a ", and what follows it. -/
def article? (s : List Char) : Option (List Char × List Char) :=
  let joint := jointLength s
  let behind := s.drop joint
  if joint = 0 then none else
  joiners.findSome? fun word =>
    if !word.toList.isPrefixOf (lower behind) then none else
    let gap := jointLength (behind.drop word.length)
    let length := joint + word.length + gap
    match gap, s.drop length with
    | 0, _ => none
    | _, a :: rest =>
      let last := jointLength rest
      if lowerChar a != ['a'] || last = 0 || (rest.drop last).isEmpty then none
      else some (s.take length, rest.drop last)
    | _, [] => none

/-- The two nouns of a compound with an indefinite article between them, and the joint of the two. -/
def dual? (s : List Char) : Option (List Char × List Char × List Char) :=
  if !(cuts (lower s)).any fun (_, rest) => " a ".toList.isPrefixOf rest || "-a-".toList.isPrefixOf rest
  then none
  else (cuts s).findSome? fun (first, rest) => (article? rest).map fun (joint, second) => (first, joint, second)

/-- The unit of a rate such as mile per hour, and what follows it. -/
def rate? (s : List Char) : Option (List Char × List Char) :=
  let before := (cuts (lower s)).reverse.find? fun (first, rest) =>
    !first.isEmpty && ([" per ", " a "].any fun w => w.toList.isPrefixOf rest && w.length < rest.length)
  before.map fun (first, _) => (s.take first.length, s.drop first.length)

/-- A joining word with a pronoun behind it that the table has, and the pronoun in the table's form. -/
def pronounPhrase? (table : List (String × String)) (s : List Char) : Option (List Char) :=
  let lowered := lower s
  match words lowered with
  | [word, pronoun] =>
    if isOne word joiners then (find? pronoun table).map (lowered.take (lowered.length - pronoun.length) ++ ·)
    else none
  | _ => none

/-! ### Letter case and alternatives -/

/-- The words of a plural, of two readings parted by a bar those of the first. -/
def chosenWords (s : List Char) : List (List Char) :=
  match split '|' s with
  | first :: second :: _ =>
    if (split ' ' first).length == (split ' ' second).length then split ' ' first
    else (split ' ' s).map (splitFirst '|' · |>.1)
  | _ => split ' ' s

/-- A word with a capital first letter and small letters behind it. -/
def capitalize (s : List Char) : List Char := upper (s.take 1) ++ lower (s.drop 1)

/-- Gives a plural the letter case of its singular: capitalized, or all capitals. What has no case counts
as both. -/
def mendCase (singular plural : List Char) : List Char :=
  if singular == ['I'] then plural
  else
    let plural := if capitalize singular == singular then capitalize plural else plural
    if upper singular == singular then upper plural else plural

/-- Mends the case of words by those they come from. A word that has a case to give must have another that
takes it. -/
def mendWords : List (List Char) → List (List Char) → Except PluralError (List (List Char))
  | [], others => .ok others
  | word :: rest, other :: others => do return mendCase word other :: (← mendWords rest others)
  | word :: rest, [] => if mendCase word ['s'] == ['s'] then mendWords rest [] else .error .noWord

/-- The chosen reading of another form of a text, in the letter case of the text. -/
def mendCases (text other : List Char) : Except PluralError (List Char) := do
  return spaced (← mendWords (split ' ' text) (chosenWords other))

/-! ### Telling plurals -/

/-- Whether a word is one of the borrowed plurals that do not end in s. -/
def isBorrowedPlural (lowered : List Char) : Bool :=
  borrowed.any fun (dropped, added, words) =>
    words.any fun w => (change w.toList dropped added).isSuffixOf lowered

/-- What stays of a plural in its singular, up to the letters of its ending; nothing where a text does not read
as a plural. Every noun in it is shorter than `fuel`. -/
def stem? : Nat → List Char → Except PluralError (Option (List Char))
  | 0, _ => .ok none
  | fuel + 1, word => do
    let lowered := lower word
    if word.isEmpty then return some []
    if (words word).isEmpty then throw .noWord
    let last := lower (lastWord word)
    if isOne last unchangedWords then
      match compound? word with
      | some (before, noun, rest) =>
        if (words word).length < 3 then return some word
        match ← stem? fuel noun with
        | some stem => return some (spaced (before ++ stem :: rest))
        | none => throw .notPlural
      | none => return some word
    if isUnchanged word then return some word
    if isOne last singularUs then return none
    if (postfixed? word).isSome then return some word
    if let some (_, noun, _) := (joined? ' ' lowered).or (joined? '-' lowered) then
      let _ ← stem? fuel noun
      return some word
    let objectPlurals := objects.map fun (_, p) => (p, p)
    if (pronounPhrase? objectPlurals word).isSome then return some word
    if (subjects ++ objects).any (·.2.toList == lowered) then return some word
    if irregularNames.any (·.2.toList == lastWord word) then return some word
    if irregular.any (isOne last ·.2) then return some word
    if irregularPairs.any fun (_, p) => (split '|' p.toList).contains (lower (lastPair word)) then
      return some word
    if endsWithOne lowered ["people", "men", "mice", "geese", "teeth", "feet", "ceps", "zoa"] then
      return some word
    if isOne lowered ["dice", "booklice", "grapelice", "lice", "woodlice"] then return some word
    if isBorrowedPlural lowered then return some word
    if endsWith lowered "s" && !endsWith lowered "ss" then return some (change word 1 "")
    return none

/-! ### Making plurals -/

/-- The plural of a word with one of the regular endings. -/
def regular (word : List Char) : List Char :=
  let lowered := lower word
  if isOne lowered singularS || endsWithOne lowered singularEndings then change word 0 "es"
  else if endsWith lowered "es" && startsCapital word then change word 0 "es"
  else if endsWith lowered "z" && endsWithOne lowered singleZ then change word 0 "es"
  else if endsWith lowered "z" && !endsWith lowered "zz" then change word 0 "zes"
  else if endsWithOne lowered ["ch", "sh", "zz", "ss", "x"] then change word 0 "es"
  else if endsWithOne lowered ["elf", "alf", "olf"] then change word 1 "ves"
  else if endsWith lowered "eaf" && !endsWith lowered "deaf" then change word 1 "ves"
  else if endsWithOne lowered ["nife", "life", "wife"] then change word 2 "ves"
  else if endsWith lowered "arf" then change word 1 "ves"
  else if endsWith lowered "y" then
    let afterVowel := ((lowered.reverse.drop 1).head?).all isVowel
    if afterVowel || word.length == 1 || startsCapital (lastWord word) then change word 0 "s" else change word 1 "ies"
  else if isOne lowered oWordsWithS || endsWithOne lowered oWithS then change word 0 "s"
  else if endsWithOne lowered ["ao", "eo", "io", "oo", "uo"] then change word 0 "s"
  else if endsWith lowered "o" then change word 0 "es"
  else change word 0 "s"

/-- The plural of a text by its last word. -/
def simplePlural (word : List Char) : List Char :=
  let lowered := lower word
  let last := lastWord word
  match pronounPhrase? objects word with
  | some p => p
  | none =>
  match find? lowered (subjects ++ objects) with
  | some p => p
  | none =>
  match find? last irregularNames with
  | some p => change word last.length (.ofList p)
  | none =>
  match irregular.find? (·.1.toList == lower last) with
  | some (_, ps) => change word last.length ("|".intercalate ps)
  | none =>
  match find? (lower (lastPair word)) irregularPairs with
  | some p => change word (lastPair word).length (.ofList p)
  | none =>
  if endsWith lowered "quy" then change word 1 "ies"
  else if endsWith lowered "person" then change word 4 "ople"
  else if endsWith lowered "man" then
    if endsWithOne lowered mans || endsWithOne word mansNames then change word 0 "s"
    else change word 3 "men"
  else if endsWith lowered "mouse" then change word 5 "mice"
  else if endsWith lowered "louse" then
    if isOne lowered lice then change word 5 "lice" else change word 0 "s"
  else if endsWith lowered "goose" then change word 5 "geese"
  else if endsWith lowered "tooth" then change word 5 "teeth"
  else if endsWith lowered "foot" then change word 4 "feet"
  else if endsWith lowered "taco" then change word 5 "tacos"
  else if isOne lowered ["die"] then "dice".toList
  else if endsWith lowered "ceps" then word
  else if endsWith lowered "zoon" then change word 2 "a"
  else if endsWithOne lowered ["cis", "sis", "xis"] then change word 2 "es"
  else match borrowed.find? (endsWithOne lowered ·.2.2) with
  | some (dropped, added, _) => change word dropped added
  | none => regular word

/-- The plural of a text before a reading is chosen and its letter case mended. Every noun in it is shorter
than `fuel`. -/
def rawPlural : Nat → List Char → Except PluralError (List Char)
  | 0, word => .ok word
  | fuel + 1, word => do
    if word.isEmpty then return []
    if (words word).isEmpty then throw .noWord
    let inCompound (otherwise : Except PluralError (List Char)) : Except PluralError (List Char) :=
      match compound? word with
      | some (before, noun, rest) =>
        if (words word).length < 3 then otherwise
        else do return spaced (before ++ (← rawPlural fuel noun) :: rest)
      | none => otherwise
    if isOne (lower (lastWord word)) unchangedWords then inCompound (.ok word)
    else if isUnchanged word then return word
    else match postfixed? word with
    | some (noun, rest) => return (← rawPlural fuel noun) ++ rest
    | none =>
    match dual? word with
    | some (first, joint, second) => return (← rawPlural fuel first) ++ joint ++ (← rawPlural fuel second)
    | none =>
    inCompound do
      match rate? word with
      | some (unit, rest) => return (← rawPlural fuel unit) ++ rest
      | none =>
      match words word with
      | first :: others =>
        if others.length != 0 && others.dropLast.getLast?.getD first == "degree".toList then
          return spaced ((← rawPlural fuel first) :: others)
        else match joined? '-' (lower word) with
        | some (before, noun, joint, rest) =>
          return spaced (before ++ [(← rawPlural fuel noun) ++ '-' :: joint ++ ['-']]) ++ spaced rest
        | none => return simplePlural word
      | [] => throw .noWord

/-! ### Texts -/

/-- Whether a text is kept as it is: no noun stands on its lines, or one that goes over several. -/
def isKept (text : List Char) : Except PluralError Bool :=
  let word := trim text
  if word.isEmpty then
    if text.all (· == '\n') then .ok true else .error .noWord
  else .ok (decide ('\n' ∈ word))

/-- A noun in the place of the one in a text, with the blanks around that one. -/
def inPlace (text noun : List Char) : List Char :=
  let lead := text.takeWhile isBlank
  lead ++ noun ++ text.drop (lead.length + (trim text).length)

/-- Whether a text is a plural, as any text is that is kept. -/
def isPlural (text : List Char) : Except PluralError Bool := do
  if ← isKept text then return true
  let word := trim text
  match ← stem? (word.length + 1) word with
  | some stem => return !(inPlace text (← mendCases word stem)).isEmpty
  | none => return false

/-- The plural of a text, which need not be a singular. -/
def plural (text : List Char) : Except PluralError (List Char) := do
  if ← isKept text then return text
  let word := trim text
  return inPlace text (← mendCases word (← rawPlural (word.length + 1) word))

instance : Inflection where
  isPlural
  plural

end GormModels.Naming.Plural
