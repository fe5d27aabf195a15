import GormModels.Cli.Switch
import GormModels.Text.Digit
import GormModels.Text.Split
import GormModels.Value.Display

/-!
Reading the words of a command line. A long switch may be cut short as long as it stays the only one; short
ones that take no value may share a word.
-/

namespace GormModels.Cli

inductive UsageError
  | ambiguous (word : String) (candidates : List String)
  | missingValue (switch : String)
  | surplusValue (switch value : String)
  | unrecognized (words : List String)
  /-- A switch that takes a value and is carried out without one. -/
  | droppedValue (switch : String)
  deriving DecidableEq, Repr

def UsageError.message : UsageError → String
  | ambiguous word candidates =>
    "ambiguous option: " ++ word ++ " could match " ++ ", ".intercalate candidates
  | missingValue switch => "argument " ++ switch ++ ": expected one argument"
  | surplusValue switch value =>
    "argument " ++ switch ++ ": ignored explicit argument " ++ Value.showText value
  | unrecognized words => "unrecognized arguments: " ++ " ".intercalate words
  | droppedValue switch => "argument " ++ switch ++ ": expected one argument"

/-- A word by what it may be: two dashes, a switch with a value if that is part of the word, something that
looks like a switch and is none, or anything else. -/
inductive Word
  | dashes
  | switch (switch : Switch) (name : String) (value : Option String)
  | unknown (text : String)
  | plain (text : String)

/-- A text that ends in digits, with a point before or among them at most, behind a dash. -/
def isNegativeNumber (s : List Char) : Bool :=
  match s with
  | '-' :: rest =>
    let rest := if rest.getLast? == some '\n' then rest.dropLast else rest
    let (_, fraction) := rest.span Text.isDecimal
    !rest.isEmpty && rest.getLast?.any Text.isDecimal &&
      (fraction.isEmpty || fraction.head? == some '.' && (fraction.drop 1).all Text.isDecimal)
  | _ => false

/-- The parts of a word before and behind its first equals sign. -/
def splitValue (word : String) : String × Option String :=
  let (name, value) := Text.splitFirst '=' word.toList
  (.ofList name, if word.toList.contains '=' then some (.ofList value) else none)

/-- The switches that a word may mean which is the name of none. -/
def candidates (word : String) : List (String × Switch × Option String) :=
  match word.toList with
  | '-' :: '-' :: _ =>
    let (start, value) := splitValue word
    (names.filter fun (name, _) => start.toList.isPrefixOf name.toList).map fun (name, s) => (name, s, value)
  | '-' :: c :: rest =>
    names.filterMap fun (name, s) =>
      if name.toList == ['-', c] then some (name, s, some (.ofList rest))
      else if word.toList.isPrefixOf name.toList then some (name, s, none)
      else none
  | _ => []

def readWord (word : String) : Except UsageError Word :=
  let s := word.toList
  if s.head? != some '-' then .ok (.plain word)
  else match switch? word with
    | some switch => .ok (.switch switch word none)
    | none =>
      if s.length == 1 then .ok (.plain word)
      else
        let (name, value) := splitValue word
        match switch? name with
        | some switch => .ok (.switch switch name value)
        | none =>
          match candidates word with
          | [(name, switch, value)] => .ok (.switch switch name value)
          | [] =>
            if isNegativeNumber s || s.contains ' ' then .ok (.plain word) else .ok (.unknown word)
          | found => .error (.ambiguous word (found.map (·.1)))

/-- The words of a command line. Behind two dashes no word is a switch. -/
def readWords : List String → Except UsageError (List Word)
  | [] => .ok []
  | word :: rest =>
    if word == "--" then .ok (.dashes :: rest.map .plain)
    else do
      let first ← readWord word
      return first :: (← readWords rest)

/-- A switch that has been given, with its value. -/
structure Given where
  switch : Switch
  value : Option String

/-- The switches within one word, the first of which may be short ones that take no value. The last one
may still need a value. -/
def unfold (fuel : Nat) (switch : Switch) (name : String) (value : Option String) :
    Except UsageError (List Given) :=
  match fuel, value with
  | 0, _ => .ok []
  | _, none => .ok [⟨switch, none⟩]
  | fuel + 1, some value =>
    if switch.effect.takesValue then .ok [⟨switch, some value⟩]
    else match name.toList, value.toList with
      | '-' :: '-' :: _, _ | _, [] => .error (.surplusValue switch.title value)
      | _, c :: rest =>
        let next := String.ofList ['-', c]
        match switch? next with
        | none => .error (.surplusValue switch.title value)
        | some found => do
          let more ← unfold fuel found next (if rest.isEmpty then none else some (.ofList rest))
          return ⟨switch, none⟩ :: more

inductive Command
  | help
  | run (arguments : Arguments)
  deriving DecidableEq, Repr

/-- Carries out the switches of a word; nothing else happens once the help is shown. -/
def carryOut (a : Arguments) : List Given → Except UsageError Command
  | [] => .ok (.run a)
  | ⟨s, value⟩ :: rest =>
    match s.effect, value with
    | .help, _ => .ok .help
    | .flag set, _ => carryOut (set a) rest
    | .value set, some v => carryOut (set v a) rest
    | .value _, none => .error (.droppedValue s.title)

/-- Gives the last switch its value if it needs one, which is the next word unless that is a switch. -/
def supply (given : List Given) (rest : List Word) : Except UsageError (List Given × List Word) :=
  match given.getLast? with
  | some ⟨s, none⟩ =>
    if s.effect.takesValue then
      match rest with
      | .plain v :: rest => .ok (given.dropLast ++ [⟨s, some v⟩], rest)
      | _ => .error (.missingValue s.title)
    else .ok (given, rest)
  | _ => .ok (given, rest)

/-- Goes through the words; those that are left over are an error in the end. -/
def follow (fuel : Nat) (a : Arguments) (extras : List String) (words : List Word) :
    Except UsageError Command :=
  match fuel, words with
  | 0, _ | _, [] => if extras.isEmpty then .ok (.run a) else .error (.unrecognized extras)
  | fuel + 1, .dashes :: rest => follow fuel a (extras ++ ["--"]) rest
  | fuel + 1, .plain text :: rest => follow fuel a (extras ++ [text]) rest
  | fuel + 1, .unknown text :: rest => follow fuel a (extras ++ [text]) rest
  | fuel + 1, .switch s name value :: rest => do
    let given ← unfold ((value.getD "").length + 1) s name value
    let (given, rest) ← supply given rest
    match ← carryOut a given with
    | .help => return .help
    | .run a => follow fuel a extras rest

/-- The command that words give. -/
def Command.ofWords (words : List String) : Except UsageError Command := do
  let words ← readWords words
  follow (words.length + 1) {} [] words

end GormModels.Cli
