import GormModels.Proofs.Attempt
import GormModels.Proofs.Database.Password

/-!
# Source names put together

Each part of a source name in the plain form ends at the first of a character that it does not have, so the parts
that a name is put together from are those that are read from it.
-/

namespace GormModels.Database

open Text
open Credentials (IsUser)

/-! ### Parts up to a character -/

theorem splitFirst_append {front : List Char} {sep : Char} (hfront : sep ∉ front) (back : List Char) :
    splitFirst sep (front ++ sep :: back) = (front, back) := by
  rw [splitFirst, takeWhile_ne_append hfront, dropWhile_ne_append hfront]
  rfl

theorem splitFirst_of_not_mem {s : List Char} {sep : Char} (hs : sep ∉ s) : splitFirst sep s = (s, []) := by
  have hpass : ∀ c ∈ s, (c != sep) = true := fun c hc => bne_iff_ne.mpr fun heq => hs (heq ▸ hc)
  rw [splitFirst, List.takeWhile_eq_self_iff.mpr hpass, List.dropWhile_eq_nil_iff.mpr hpass]
  rfl

theorem splitLast_append (front : List Char) {back : List Char} {sep : Char} (hback : sep ∉ back) :
    splitLast sep (front ++ sep :: back) = (front, back) := by
  have hreverse : (front ++ sep :: back).reverse = back.reverse ++ sep :: front.reverse := by simp
  have hbehind : ((front ++ sep :: back).reverse.takeWhile (· != sep)).reverse = back := by
    rw [hreverse, takeWhile_ne_append (by simpa using hback), List.reverse_reverse]
  have hlength : (front ++ sep :: back).length - back.length - 1 = front.length := by
    simp only [List.length_append, List.length_cons]
    omega
  rw [splitLast, hbehind, hlength, List.take_left]

/-! ### Names of a server and a database on it -/

/-- The parts of a source name without a scheme, for a server that has a host and a port. -/
structure PlainName where
  user : List Char
  password : Option (List Char)
  protocol : List Char
  host : List Char
  port : List Char
  database : List Char
  parameters : Option (List Char)
  isUser : IsUser user
  password_noAt : ∀ chars ∈ password, '@' ∉ chars
  protocol_filled : protocol ≠ []
  protocol_word : ∀ c ∈ protocol, isWordChar c = true
  protocol_ne_unix : protocol ≠ "unix".toList
  host_filled : host ≠ []
  host_open : ')' ∉ host
  port_open : ')' ∉ port
  port_noColon : ':' ∉ port
  database_filled : database ≠ []
  database_noMark : '?' ∉ database
  parameters_oneLine : ∀ chars ∈ parameters, '\n' ∉ chars

namespace PlainName

/-- A part that may be missing, behind its sign. -/
def behind (sign : Char) (part : Option (List Char)) : List Char := part.elim [] (sign :: ·)

def location (n : PlainName) : List Char := n.database ++ behind '?' n.parameters

def server (n : PlainName) : List Char :=
  n.protocol ++ '(' :: (n.host ++ ':' :: n.port) ++ ')' :: '/' :: n.location

/-- The text `user:password@protocol(host:port)/database?parameters`. -/
def text (n : PlainName) : List Char := n.user ++ behind ':' n.password ++ '@' :: n.server

/-- The settings that a name stands for. -/
def settings (n : PlainName) : Settings where
  name := .ofList n.database
  user := .ofList n.user
  password := .ofList (n.password.getD [])
  host := .ofList n.host
  port := .ofList n.port
  options := (queryValues (n.parameters.getD [])).filter (·.1 == "charset")

variable (n : PlainName)

theorem credentials?_text : credentials? n.text = some (n.user, n.password.getD [], n.server) := by
  have hpass : ∀ c ∈ n.user, (c != ':' && c != '@' && c != '/') = true := by
    intro c hc
    simpa [and_assoc, and_comm, and_left_comm] using n.isUser c hc
  have huser (sign : Char) (hsign : (sign != ':' && sign != '@' && sign != '/') = false) (s : List Char) :
      (n.user ++ sign :: s).takeWhile (fun c => c != ':' && c != '@' && c != '/') = n.user := by
    rw [List.takeWhile_append_of_pos hpass, List.takeWhile_cons_of_neg (by simp [hsign]), List.append_nil]
  cases hpassword : n.password with
  | none =>
      have htext : n.text = n.user ++ '@' :: n.server := by simp [text, behind, hpassword]
      rw [htext, credentials?, huser '@' (by decide), List.drop_left]
      rfl
  | some chars =>
      have htext : n.text = n.user ++ ':' :: (chars ++ '@' :: n.server) := by simp [text, behind, hpassword]
      have hchars : '@' ∉ chars := n.password_noAt chars (by simp [hpassword])
      rw [htext, credentials?, huser ':' (by decide), List.drop_left]
      simp only [dropWhile_ne_append hchars, takeWhile_ne_append hchars, Option.getD_some]

theorem endpoint?_server : endpoint? n.server = some (⟨n.protocol, n.host ++ ':' :: n.port⟩, n.location) := by
  have hserver : n.server = n.protocol ++ '(' :: (n.host ++ ':' :: n.port ++ ')' :: '/' :: n.location) := by
    simp [server]
  have haddress : ')' ∉ n.host ++ ':' :: n.port := by simp [n.host_open, n.port_open]
  have hstop : isWordChar '(' = false := by decide
  have hprotocol : n.protocol.isEmpty = false := by simp [n.protocol_filled]
  rw [hserver, endpoint?, List.takeWhile_append_of_pos n.protocol_word, List.dropWhile_append_of_pos n.protocol_word,
    List.takeWhile_cons_of_neg (by simp [hstop]), List.dropWhile_cons_of_neg (by simp [hstop]), List.append_nil]
  simp only [hprotocol, dropWhile_ne_append haddress, takeWhile_ne_append haddress, Bool.false_eq_true, if_false]

/-- The port stands behind the last colon of the address, whatever colons the host has. -/
theorem hostAndPort_endpoint : Endpoint.hostAndPort ⟨n.protocol, n.host ++ ':' :: n.port⟩ = (n.host, n.port) := by
  have hprotocol : (n.protocol == "unix".toList) = false := beq_eq_false_iff_ne.mpr n.protocol_ne_unix
  have hcolon : (n.host ++ ':' :: n.port).contains ':' = true := by simp
  simp only [Endpoint.hostAndPort, hprotocol, hcolon, Bool.not_true, Bool.or_self, Bool.false_eq_true, if_false,
    splitLast_append n.host n.port_noColon]

theorem database?_location : database? n.location = some (n.database, n.parameters.getD []) := by
  cases hparameters : n.parameters with
  | none =>
      have hlocation : n.location = n.database := by simp [location, behind, hparameters]
      rw [hlocation, database?, splitFirst_of_not_mem n.database_noMark]
      rfl
  | some chars =>
      have hlocation : n.location = n.database ++ '?' :: chars := by simp [location, behind, hparameters]
      have hline : '\n' ∉ chars := n.parameters_oneLine chars (by simp [hparameters])
      rw [hlocation, database?, splitFirst_append n.database_noMark]
      simp [hline]

theorem ofPlain_text : ofPlain n.text = .ok n.settings := by
  have hsettings : settings? n.user (n.password.getD []) n.server = some n.settings := by
    simp [settings?, endpoint?_server, database?_location, hostAndPort_endpoint, settings]
  simp only [ofPlain, credentials?_text, Option.bind_some, hsettings]
  rfl

theorem name_settings_ne_empty : n.settings.name ≠ "" := by
  have hname : n.settings.name.toList = n.database := String.toList_ofList
  intro heq
  rw [heq] at hname
  exact n.database_filled hname.symm

/-- A name in the plain form is read as the parts that it is put together from, unless it has the mark of a scheme
in it or blanks around it. -/
theorem parseSourceName_text (hmark : ¬ Credentials.mark <:+: n.text) (hblanks : trim n.text = n.text) :
    parseSourceName (.ofList n.text) = .ok n.settings := by
  have hscheme : hasScheme n.text = false := by
    rw [hasScheme_eq, Bool.eq_false_iff]
    exact mt Credentials.hasScheme_iff.mp hmark
  have hfilled : n.text.isEmpty = false := by simp [text]
  have hname : (n.settings.name == "") = false := beq_eq_false_iff_ne.mpr n.name_settings_ne_empty
  simp only [parseSourceName, String.toList_ofList, hblanks, hscheme, hfilled, ofPlain_text, Attempt.ok_bind, hname,
    Bool.false_eq_true, if_false]
  rfl

end PlainName

/-- A name in which every part has signs that end others: a password with slashes, colons and brackets, a host with
colons, and a database with an at sign. -/
def crowdedName : PlainName where
  user := "root".toList
  password := some "a:/(b)?".toList
  protocol := "tcp".toList
  host := "[de:ad::ca]".toList
  port := "3306".toList
  database := "shop@(x:1)/y".toList
  parameters := some "charset=utf8mb4&loc=a?b".toList
  isUser := by decide
  password_noAt := by simp
  protocol_filled := by simp
  protocol_word := List.all_eq_true.mp (by decide)
  protocol_ne_unix := by simp
  host_filled := by simp
  host_open := by decide
  port_open := by decide
  port_noColon := by decide
  database_filled := by simp
  database_noMark := by decide
  parameters_oneLine := by simp

theorem parseSourceName_crowded :
    parseSourceName "root:a:/(b)?@tcp([de:ad::ca]:3306)/shop@(x:1)/y?charset=utf8mb4&loc=a?b" = .ok
      { name := "shop@(x:1)/y", user := "root", password := "a:/(b)?", host := "[de:ad::ca]", port := "3306"
        options := [("charset", "utf8mb4")] } := by
  have hparsed := crowdedName.parseSourceName_text (by decide +kernel) (by decide +kernel)
  have hoptions : (queryValues "charset=utf8mb4&loc=a?b".toList).filter (·.1 == "charset") =
      [("charset", "utf8mb4")] := by decide +kernel
  rw [PlainName.settings] at hparsed
  rw [← hoptions]
  exact hparsed

end GormModels.Database
