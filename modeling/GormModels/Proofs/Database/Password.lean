import GormModels.Database.Fetch
import GormModels.Proofs.Report.Credentials
import GormModels.Proofs.Text.Blank
import GormModels.Web

/-!
# Passwords in reports on the database

The report on a failed fetch shows the source name. Two fetches that fail alike, with source names that are told
apart by their passwords alone, are to be reported alike. What decides it is the user before the password.
-/

namespace GormModels.Database

open Text
open Credentials hiding hasScheme

/-! ### Source names with credentials -/

/-- A source name but for its password. -/
structure Account where
  /-- Whether the credentials stand behind a scheme. -/
  addressed : Bool
  user : List Char
  rest : List Char
  isUser : IsUser user

structure Password where
  chars : List Char
  filled : chars ≠ []
  noAt : '@' ∉ chars

namespace Account

def lead (a : Account) : List Char := if a.addressed then "mysql".toList ++ mark else []

def credentials (a : Account) (p : Password) : List Char := a.user ++ ':' :: p.chars ++ '@' :: a.rest

def source (a : Account) (p : Password) : String := .ofList (a.lead ++ a.credentials p)

/-- Whether a password is replaced: the user has a name, and a source name that does not start with a scheme
has none further behind. -/
def Hides (a : Account) (p : Password) : Prop :=
  a.user ≠ [] ∧ (a.addressed = true ∨ Credentials.hasScheme (a.credentials p) = false)

instance (a : Account) (p : Password) : Decidable (a.Hides p) := inferInstanceAs (Decidable (_ ∧ _))

/-- What stands in a report from the end of the user to the at sign. -/
def cover (a : Account) (p : Password) : List Char := if a.Hides p then ":***@".toList else bared p.chars

theorem hasScheme_credentials (a : Account) (p : Password) :
    Credentials.hasScheme (a.credentials p) =
      (Credentials.hasScheme (':' :: p.chars) || Credentials.hasScheme a.rest) := by
  rw [credentials, List.append_assoc, hasScheme_append (colon_not_mem_of_isUser a.isUser), hasScheme_append_at]

theorem mask_source (a : Account) (p : Password) :
    mask (a.source p) = .ofList (a.lead ++ (a.user ++ a.cover p ++ maskAddresses a.rest)) := by
  have hcredentials := maskAddresses_credentials a.isUser p.noAt a.rest
  rw [mask, source, String.toList_ofList]
  refine congrArg String.ofList ?_
  cases ha : a.addressed with
  | true =>
      have hscheme : Credentials.hasScheme (a.lead ++ a.credentials p) = true :=
        hasScheme_iff.mpr ⟨"mysql".toList, a.credentials p, by simp [lead, ha]⟩
      rw [if_pos hscheme, lead, if_pos ha, List.append_assoc, List.append_assoc,
        maskAddresses_append (by decide)]
      refine congrArg ("mysql".toList ++ ·) ?_
      by_cases hname : a.user = []
      · rw [cover, if_neg (fun h => h.1 hname), ← hcredentials, hname]
        rw [credentials, hname]
        exact maskAddresses_mark_colon _
      · rw [credentials, cover, if_pos ⟨hname, .inl ha⟩,
          maskAddresses_of_split? (split?_credentials a.isUser p.noAt a.rest hname p.filled)]
        simp [Credentials.hidden]
  | false =>
      rw [show a.lead = [] by simp [lead, ha], List.nil_append, List.nil_append]
      cases hscheme : Credentials.hasScheme (a.credentials p) with
      | true =>
          rw [if_pos rfl, cover, if_neg (by simp [Hides, ha, hscheme])]
          exact hcredentials
      | false =>
          have hplain : maskAddresses (a.credentials p) = a.credentials p :=
            maskAddresses_of_hasScheme_eq_false hscheme
          have hrest := hscheme
          rw [hasScheme_credentials, Bool.or_eq_false_iff] at hrest
          rw [if_neg (by simp)]
          by_cases hname : a.user = []
          · rw [cover, if_neg (fun h => h.1 hname), ← hcredentials]
            refine Eq.trans ?_ hplain.symm
            rw [credentials, hname, List.nil_append, maskLeading, List.cons_append, split?_colon]
          · rw [cover, if_pos ⟨hname, .inr hscheme⟩, maskAddresses_of_hasScheme_eq_false hrest.2, maskLeading,
              credentials, split?_credentials a.isUser p.noAt a.rest hname p.filled]
            simp [Credentials.hidden]

theorem hides_of_cover_eq {a : Account} {p q : Password} (heq : a.cover p = a.cover q) (hp : a.Hides p) :
    a.Hides q := by
  by_contra hq
  rw [cover, cover, if_pos hp, if_neg hq] at heq
  obtain ⟨hname, hp⟩ := hp
  have haddressed : a.addressed ≠ true := fun h => hq ⟨hname, .inl h⟩
  have hrest : Credentials.hasScheme a.rest = false := by
    have hnone := hp.resolve_left haddressed
    rw [hasScheme_credentials, Bool.or_eq_false_iff] at hnone
    exact hnone.2
  have hmark : Credentials.hasScheme (':' :: q.chars) = true := by
    by_contra hnone
    refine hq ⟨hname, .inr ?_⟩
    rw [hasScheme_credentials, hrest, Bool.eq_false_iff.mpr hnone]
    rfl
  have hbared : Credentials.hasScheme (bared q.chars) = true :=
    hasScheme_maskAddresses (by rw [hasScheme_append_at, hmark]; rfl)
  rw [← heq] at hbared
  exact absurd hbared (by decide)

theorem cover_eq_iff (a : Account) (p q : Password) :
    a.cover p = a.cover q ↔ a.Hides p ∧ a.Hides q ∨ ¬ a.Hides p ∧ ¬ a.Hides q ∧ bared p.chars = bared q.chars := by
  constructor
  · intro heq
    by_cases hp : a.Hides p
    · exact .inl ⟨hp, hides_of_cover_eq heq hp⟩
    · have hq : ¬ a.Hides q := fun hq => hp (hides_of_cover_eq heq.symm hq)
      rw [cover, cover, if_neg hp, if_neg hq] at heq
      exact .inr ⟨hp, hq, heq⟩
  · rintro (⟨hp, hq⟩ | ⟨hp, hq, heq⟩)
    · rw [cover, cover, if_pos hp, if_pos hq]
    · rw [cover, cover, if_neg hp, if_neg hq, heq]

end Account

/-! ### Accepted names -/

theorem hasScheme_eq (s : List Char) : hasScheme s = Credentials.hasScheme s := by
  fun_induction hasScheme s with
  | case1 => rfl
  | case2 c s hmark ih => rw [ih, Credentials.hasScheme.eq_2 _ _ hmark]
  | case3 => rfl

/-- Whether a user, as the start of an address, is a scheme that is accepted. -/
def NamesScheme (user : List Char) : Prop :=
  String.ofList ((cleaned (trimLeft user)).map Char.toLower) ∈ schemes

instance (user : List Char) : Decidable (NamesScheme user) := inferInstanceAs (Decidable (_ ∈ _))

section

variable {c : Char} (hc : isBlank c = false) (front s : List Char)

include hc

theorem trimLeft_append_cons : trimLeft (front ++ c :: s) = trimLeft front ++ c :: s :=
  dropWhile_append_of_head hc front s

theorem trimRight_append_cons : trimRight (front ++ c :: s) = front ++ c :: trimRight s := by
  rw [trimRight, List.reverse_append, List.reverse_cons, List.append_assoc, List.singleton_append,
    dropWhile_append_of_head hc]
  simp [trimRight]

end

theorem hasScheme_trim {s : List Char} (h : Credentials.hasScheme s = true) : hasScheme (trim s) = true := by
  obtain ⟨front, rest, rfl⟩ := hasScheme_iff.mp h
  have hcolon : trimLeft (front ++ mark ++ rest) = trimLeft front ++ [':', '/'] ++ '/' :: rest := by
    rw [List.append_assoc]
    exact (trimLeft_append_cons (by decide) front ('/' :: '/' :: rest)).trans (by simp)
  rw [trim, hcolon, trimRight_append_cons (by decide), hasScheme_eq, hasScheme_iff]
  exact ⟨trimLeft front, trimRight rest, by simp [mark]⟩

theorem cleaned_append_colon (front s : List Char) :
    ∃ rest, cleaned (front ++ ':' :: s) = cleaned front ++ ':' :: rest := by
  rw [cleaned, dropWhile_append_of_head (by decide), List.filter_append]
  exact ⟨_, rfl⟩

theorem scheme_of_read {s : List Char} {url : Url} (h : Url.read s = .ok url) :
    url.scheme = .ofList (splitScheme (cleaned s)).1 := by
  simp only [Url.read, bind, Except.bind] at h
  split at h
  case h_1 => cases h
  case h_2 =>
      cases h
      rfl

theorem scheme_of_ofUrl {s : List Char} {settings : Settings} (h : ofUrl s = .ok settings) :
    String.ofList (splitScheme (cleaned s)).1 ∈ schemes := by
  rw [ofUrl] at h
  cases hread : Url.read s with
  | error e => simp [hread, Except.mapError, bind, Except.bind] at h
  | ok url =>
      rw [← scheme_of_read hread]
      by_contra hscheme
      simp [hread, Except.mapError, bind, Except.bind, hscheme, throw, throwThe, MonadExceptOf.throw] at h

theorem ofUrl_of_parseSourceName {source : String} {settings : Settings}
    (haccepted : parseSourceName source = .ok settings) (hscheme : hasScheme (trim source.toList) = true) :
    ∃ found, ofUrl (trim source.toList) = .ok found := by
  cases hread : ofUrl (trim source.toList) with
  | ok found => exact ⟨found, rfl⟩
  | error e =>
      simp only [parseSourceName, hscheme, if_true, hread, bind, Except.bind] at haccepted
      split at haccepted <;> cases haccepted

theorem splitScheme_append_colon {front : List Char} (hfront : ':' ∉ front) (s : List Char) :
    (splitScheme (front ++ ':' :: s)).1 = front.map Char.toLower ∨ (splitScheme (front ++ ':' :: s)).1 = [] := by
  rw [splitScheme, takeWhile_ne_append hfront]
  split
  case isTrue => exact .inl rfl
  case isFalse => exact .inr rfl

/-- Where an accepted name without a scheme has the mark of one further behind, its user is taken for the
scheme. -/
theorem namesScheme_of_parseSourceName {a : Account} {p : Password} {settings : Settings}
    (haccepted : parseSourceName (a.source p) = .ok settings) (hplain : a.addressed = false)
    (hscheme : Credentials.hasScheme (a.credentials p) = true) : NamesScheme a.user := by
  have hsource : (a.source p).toList = a.user ++ ':' :: (p.chars ++ '@' :: a.rest) := by
    simp [Account.source, Account.lead, Account.credentials, hplain]
  have htrim : trim (a.source p).toList = trimLeft a.user ++ ':' :: trimRight (p.chars ++ '@' :: a.rest) := by
    rw [hsource, trim, trimLeft_append_cons (by decide), trimRight_append_cons (by decide)]
  obtain ⟨found, hfound⟩ := ofUrl_of_parseSourceName haccepted <| by
    apply hasScheme_trim
    rw [hsource]
    simpa [Account.credentials] using hscheme
  have hknown := scheme_of_ofUrl hfound
  obtain ⟨behind, hcleaned⟩ := cleaned_append_colon (trimLeft a.user) (trimRight (p.chars ++ '@' :: a.rest))
  have hcolon : ':' ∉ cleaned (trimLeft a.user) := by
    intro hmem
    have hmem := (List.dropWhile_suffix _).subset (List.mem_of_mem_filter hmem)
    exact colon_not_mem_of_isUser a.isUser ((List.dropWhile_suffix _).subset hmem)
  rw [htrim, hcleaned] at hknown
  obtain hword | hnone := splitScheme_append_colon hcolon behind
  · rwa [hword] at hknown
  · rw [hnone] at hknown
    exact absurd hknown (by decide)

/-! ### Reports -/

/-- What a failed query is reported with. -/
def failureMessage (database : Answer) (table : String) : String :=
  match database with
  | .failure text => "Could not read table '" ++ table ++ "': " ++ text
  | .row _ => "Table '" ++ table ++ "' was not found"

/-- A process without settings takes the first that it is given. -/
theorem handle_of_accepted {source : String} {settings : Settings} (haccepted : parseSourceName source = .ok settings) :
    ({} : Configuration).handle source =
      ({ active := some settings, configured := [settings], setups := 1 }, .done) := by
  rw [Configuration.handle, haccepted]
  rfl

/-- A fetch with an accepted source name, the first in its process, is reported as a failure of the database. -/
structure Raises (database : Answer) (table source : String) (report : Report) : Prop where
  accepted : ∃ settings, parseSourceName source = .ok settings
  raised : ∃ error, (fetchCreate database source table).result = .error error ∧ error.report? = some report
  kind : report.kind = .databaseConnection

/-- Reports that show the same, on a terminal and as an answer to a request. -/
def SameShown (r s : Report) : Prop := r.text = s.text ∧ Web.reportValue r = Web.reportValue s

theorem Raises.report_eq {database : Answer} {table source : String} {report : Report}
    (h : Raises database table source report) :
    table ≠ "" ∧ report = .databaseConnection (failureMessage database table) (some source) (some table) := by
  obtain ⟨⟨settings, haccepted⟩, ⟨error, herror, hreport⟩, hkind⟩ := h
  unfold fetchCreate at herror
  split at herror
  case isTrue =>
      cases herror
      cases hreport
      cases hkind
  case isFalse htable =>
      simp only [handle_of_accepted haccepted] at herror
      refine ⟨by simpa using (not_or.mp (by simpa using htable)).1, ?_⟩
      match database, herror with
      | .failure text, rfl => exact (Option.some.inj hreport).symm
      | .row none, rfl => exact (Option.some.inj hreport).symm
      | .row (some []), rfl => exact (Option.some.inj hreport).symm
      | .row (some [_]), rfl => exact (Option.some.inj hreport).symm

theorem context_databaseConnection {message source table : String} (htable : table ≠ "") (hsource : source ≠ "")
    (hmask : mask source ≠ "") :
    (Report.databaseConnection message (some source) (some table)).context =
      [("database_url", .text (mask source)), ("table", .text table)] := by
  simp [Report.databaseConnection, Context.putText, Context.put, htable, hsource, hmask]

theorem sameShown_iff_mask {message table s t : String} (htable : table ≠ "") (hs : s ≠ "" ∧ mask s ≠ "")
    (ht : t ≠ "" ∧ mask t ≠ "") :
    SameShown (.databaseConnection message (some s) (some table)) (.databaseConnection message (some t) (some table)) ↔
      mask s = mask t := by
  constructor
  · rintro ⟨-, hvalue⟩
    simp only [Web.reportValue, Web.object, Report.contextTexts, context_databaseConnection htable hs.1 hs.2,
      context_databaseConnection htable ht.1 ht.2] at hvalue
    simp [Value.display] at hvalue
    exact hvalue.2.2
  · intro heq
    have hreport : Report.databaseConnection message (some s) (some table) =
        .databaseConnection message (some t) (some table) := by
      simp [Report.databaseConnection, heq, hs.1, ht.1]
    rw [hreport]
    exact ⟨rfl, rfl⟩

theorem Account.source_ne_empty (a : Account) (p : Password) : a.source p ≠ "" ∧ mask (a.source p) ≠ "" := by
  have hcover : a.cover p ≠ [] := by
    rw [cover]
    split
    · decide
    · exact maskAddresses_ne_nil (by simp)
  constructor
  · simp [source, credentials]
  · simp [mask_source, hcover]

section

variable {a : Account} {p q : Password} {database : Answer} {table : String} {r s : Report}
  (hr : Raises database table (a.source p) r) (hs : Raises database table (a.source q) s)

include hr hs

theorem sameShown_iff_cover : SameShown r s ↔ a.cover p = a.cover q := by
  obtain ⟨htable, rfl⟩ := hr.report_eq
  obtain ⟨-, rfl⟩ := hs.report_eq
  calc SameShown _ _ ↔ mask (a.source p) = mask (a.source q) :=
        sameShown_iff_mask htable (a.source_ne_empty p) (a.source_ne_empty q)
    _ ↔ a.cover p = a.cover q := by
        rw [a.mask_source, a.mask_source, String.ofList_inj, List.append_cancel_left_eq, List.append_left_inj,
          List.append_cancel_left_eq]

/-- Without a user, different passwords are reported differently, unless one of them has an address in it. -/
theorem sameShown_iff_of_nameless (hname : a.user = []) (hp : Credentials.hasScheme (':' :: p.chars) = false)
    (hq : Credentials.hasScheme (':' :: q.chars) = false) : SameShown r s ↔ p.chars = q.chars := by
  have hbared (p : Password) : a.cover p = bared p.chars := if_neg fun h => h.1 hname
  rw [sameShown_iff_cover hr hs, hbared, hbared, bared_eq_self hp, bared_eq_self hq]
  simp

/-- Reports that differ by passwords alone look the same just if both passwords are replaced or the same is
bared of both. Both are replaced unless there is no user or the user is read as a scheme. -/
theorem sameShown_iff_hides :
    (SameShown r s ↔
      a.Hides p ∧ a.Hides q ∨ ¬ a.Hides p ∧ ¬ a.Hides q ∧ bared p.chars = bared q.chars) ∧
    (a.Hides p ∧ a.Hides q ∨ a.user = [] ∨ a.addressed = false ∧ NamesScheme a.user) := by
  have hides {p : Password} (haccepted : ∃ settings, parseSourceName (a.source p) = .ok settings)
      (hname : a.user ≠ []) (hscheme : ¬ (a.addressed = false ∧ NamesScheme a.user)) : a.Hides p := by
    obtain ⟨settings, haccepted⟩ := haccepted
    refine ⟨hname, ?_⟩
    by_contra hnot
    obtain ⟨hplain, hmark⟩ := not_or.mp hnot
    have hplain := Bool.eq_false_iff.mpr hplain
    exact hscheme ⟨hplain, namesScheme_of_parseSourceName haccepted hplain (by simpa using hmark)⟩
  constructor
  · exact (sameShown_iff_cover hr hs).trans (a.cover_eq_iff p q)
  · by_cases hexcept : a.user = [] ∨ a.addressed = false ∧ NamesScheme a.user
    · exact .inr hexcept
    · obtain ⟨hname, hscheme⟩ := not_or.mp hexcept
      exact .inl ⟨hides hr.accepted hname hscheme, hides hs.accepted hname hscheme⟩

end

/-! ### A table that is missing -/

theorem raises_of_missing {source : String} {settings : Settings} (haccepted : parseSourceName source = .ok settings)
    {table : String} (hname : table ≠ "") (hquotes : '\x60' ∉ table.toList) :
    Raises (.row none) table source
      (.databaseConnection ("Table '" ++ table ++ "' was not found") (some source) (some table)) where
  accepted := ⟨settings, haccepted⟩
  raised := by
    refine ⟨.missing source table, ?_, rfl⟩
    simp [fetchCreate, handle_of_accepted haccepted, hname, hquotes]
  kind := rfl

/-- An account at the database of a shop, in the plain form. -/
def shopAccount (user : List Char) (isUser : IsUser user) : Account :=
  { addressed := false, user, rest := "tcp(h:3306)/shop".toList, isUser }

def secret : Password := ⟨"secret".toList, by decide, by decide⟩

def other : Password := ⟨"other".toList, by decide, by decide⟩

theorem sameShown_root : ∃ r s, Raises (.row none) "t" "root:secret@tcp(h:3306)/shop" r ∧
    Raises (.row none) "t" "root:other@tcp(h:3306)/shop" s ∧ SameShown r s := by
  let root := shopAccount "root".toList (by decide)
  have hsecret : parseSourceName (root.source secret) = .ok ⟨"shop", "root", "secret", "h", "3306", []⟩ := by
    decide +kernel
  have hother : parseSourceName (root.source other) = .ok ⟨"shop", "root", "other", "h", "3306", []⟩ := by
    decide +kernel
  have hr := raises_of_missing hsecret (show "t" ≠ "" by decide) (by decide)
  have hs := raises_of_missing hother (show "t" ≠ "" by decide) (by decide)
  exact ⟨_, _, hr, hs, (sameShown_iff_hides hr hs).1.mpr (.inl ⟨by decide, by decide⟩)⟩

theorem not_sameShown_nameless : ∃ r s, Raises (.row none) "t" ":secret@tcp(h:3306)/shop" r ∧
    Raises (.row none) "t" ":other@tcp(h:3306)/shop" s ∧ ¬ SameShown r s := by
  let nameless := shopAccount [] (by decide)
  have hsecret : parseSourceName (nameless.source secret) = .ok ⟨"shop", "", "secret", "h", "3306", []⟩ := by
    decide +kernel
  have hother : parseSourceName (nameless.source other) = .ok ⟨"shop", "", "other", "h", "3306", []⟩ := by
    decide +kernel
  have hr := raises_of_missing hsecret (show "t" ≠ "" by decide) (by decide)
  have hs := raises_of_missing hother (show "t" ≠ "" by decide) (by decide)
  refine ⟨_, _, hr, hs, ?_⟩
  rw [sameShown_iff_of_nameless hr hs rfl (by decide) (by decide)]
  decide

end GormModels.Database
