import GormModels.Report

/-!
Hiding passwords. A database address carries its password between the user and an at sign; reports
show three stars in its place.
-/

namespace GormModels

namespace Credentials

/-- Where a text starts with a user, a colon, a password and an at sign: the user and what follows. -/
def split? (s : List Char) : Option (List Char × List Char) :=
  let user := s.takeWhile (· ∉ [':', '/', '@'])
  match s.dropWhile (· ∉ [':', '/', '@']) with
  | ':' :: rest =>
    let password := rest.takeWhile (· != '@')
    match rest.dropWhile (· != '@') with
    | _ :: after => if user.isEmpty || password.isEmpty then none else some (user, after)
    | [] => none
  | _ => none

theorem length_split?_lt {s user after : List Char} (h : split? s = some (user, after)) :
    after.length < s.length := by
  have drop_le (p : Char → Bool) (l : List Char) : (l.dropWhile p).length ≤ l.length :=
    (List.dropWhile_sublist p).length_le
  unfold split? at h
  dsimp only at h
  split at h
  · rename_i rest hrest
    split at h
    · rename_i c tail htail
      split at h
      · cases h
      · cases h
        have h₁ := drop_le (· ∉ [':', '/', '@']) s
        have h₂ := drop_le (· != '@') rest
        rw [hrest] at h₁
        rw [htail] at h₂
        simp only [List.length_cons] at h₁ h₂
        omega
    · cases h
  · cases h

def hidden (user : List Char) : List Char := user ++ ":***@".toList

/-- Hides every password that stands behind the scheme of an address. -/
def maskAddresses : List Char → List Char
  | ':' :: '/' :: '/' :: rest =>
    match h : split? rest with
    | some (user, after) =>
      have := length_split?_lt h
      "://".toList ++ hidden user ++ maskAddresses after
    | none => ':' :: maskAddresses ('/' :: '/' :: rest)
  | c :: rest => c :: maskAddresses rest
  | [] => []
termination_by s => s.length
decreasing_by all_goals (simp only [List.length_cons]; omega)

/-- Hides the password that a text starts with. -/
def maskLeading (s : List Char) : List Char :=
  match split? s with
  | some (user, after) => hidden user ++ after
  | none => s

def hasScheme : List Char → Bool
  | ':' :: '/' :: '/' :: _ => true
  | _ :: rest => hasScheme rest
  | [] => false

/-- Hides passwords in an address with a scheme, or else the one that it starts with. -/
def mask (address : String) : String :=
  let s := address.toList
  .ofList (if hasScheme s then maskAddresses s else maskLeading s)

end Credentials

def Report.databaseConnection (message : String) (address table : Option String := none)
    (extras : Extras := {}) : Report :=
  let address := address.map fun a => if a == "" then "" else Credentials.mask a
  { kind := .databaseConnection
    message
    context := (extras.context.putText "database_url" address).putText "table" table
    suggestions := extras.suggestionsFor .databaseConnection }

end GormModels
