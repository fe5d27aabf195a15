import GormModels.Proofs.Attempt
import GormModels.Proofs.Database.Password

/-!
# Faults of source names

A source name gives settings with a database or a fault. Every fault is reported but two, which only an address with
a scheme can have: its host is not one, or its port is none though the scheme is one of those that are known.
-/

namespace GormModels.Database

open Text

/-! ### Parts of an address -/

/-- What stands behind two slashes up to a path, a query or a fragment, and the rest. -/
def splitAuthority : List Char → List Char × List Char
  | '/' :: '/' :: s =>
    (s.takeWhile fun c => c != '/' && c != '?' && c != '#', s.dropWhile fun c => c != '/' && c != '?' && c != '#')
  | s => ([], s)

/-- The part of an address that says where a server is and who asks it. -/
def authorityOf (s : List Char) : List Char := (splitAuthority (splitScheme (cleaned s)).2).1

def schemeOf (s : List Char) : String := .ofList (splitScheme (cleaned s)).1

/-- What stands behind the colon of a host. -/
def portOf (s : List Char) : List Char := (hostAndPort (splitLast '@' (authorityOf s)).2).2

/-- Brackets stand around an address with colons and nowhere else, and no character turns into a separator. -/
def IsAuthority (authority : List Char) : Prop :=
  wellBracketed authority = true ∧ ∀ c ∈ authority, c.toNat ∉ hiddenSeparators

/-- A port is left out or a number of 16 bits in decimal digits, of which no more than 4300 are read. -/
def IsPort (port : List Char) : Prop :=
  port ≠ [] → (∀ c ∈ port, c.isDigit = true) ∧ port.length ≤ 4300 ∧ Decimal.digitsValue port < 65536

/-- Ways in which an address with a scheme cannot be read. -/
inductive Misaddressed (s : List Char) : Prop
  | host (hhost : ¬ IsAuthority (authorityOf s)) : Misaddressed s
  | port (hscheme : schemeOf s ∈ schemes) (hport : ¬ IsPort (portOf s)) : Misaddressed s

theorem checkAuthority_eq_ok_iff {authority : List Char} :
    checkAuthority authority = .ok () ↔ IsAuthority authority := by
  have hpass : (wellBracketed authority && !authority.any fun c => hiddenSeparators.contains c.toNat) = true ↔
      IsAuthority authority := by
    simp [IsAuthority]
  rw [← hpass, checkAuthority]
  split
  case isTrue h => exact iff_of_true rfl h
  case isFalse h => exact iff_of_false nofun h

theorem readPort_succeeds_iff {port : List Char} : (∃ n, readPort port = .ok n) ↔ IsPort port := by
  unfold readPort IsPort
  split
  case isTrue hempty =>
      rw [List.isEmpty_iff] at hempty
      exact iff_of_true ⟨none, rfl⟩ fun hfilled => absurd hempty hfilled
  case isFalse hfilled =>
      rw [List.isEmpty_iff] at hfilled
      have hdigits : (port.all Char.isDigit && decide (port.length ≤ 4300)) = true ↔
          (∀ c ∈ port, c.isDigit = true) ∧ port.length ≤ 4300 := by
        simp
      simp only [hdigits]
      split
      case isTrue hshape =>
          change (∃ n, (if Decimal.digitsValue port ≤ 65535 then _ else _) = _) ↔ _
          split
          case isTrue hvalue => exact iff_of_true ⟨_, rfl⟩ fun _ => ⟨hshape.1, hshape.2, Nat.lt_succ_of_le hvalue⟩
          case isFalse hvalue =>
              refine iff_of_false nofun fun hport => ?_
              obtain ⟨-, -, hlt⟩ := hport hfilled
              exact hvalue (Nat.le_of_lt_succ hlt)
      case isFalse hshape =>
          refine iff_of_false nofun fun hport => ?_
          obtain ⟨hall, hlength, -⟩ := hport hfilled
          exact hshape ⟨hall, hlength⟩

/-- An address is read whenever its authority is one; what is read for its path and query does not matter here. -/
theorem read_eq (s : List Char) : ∃ path query,
    Url.read s = (checkAuthority (authorityOf s)).map fun _ => ⟨schemeOf s, authorityOf s, path, query⟩ := by
  let behind := (splitFirst '#' (splitAuthority (splitScheme (cleaned s)).2).2).1
  have hread : Url.read s = (checkAuthority (authorityOf s) >>= fun _ =>
      pure ⟨schemeOf s, authorityOf s, (splitFirst '?' behind).1, (splitFirst '?' behind).2⟩) := rfl
  refine ⟨(splitFirst '?' behind).1, (splitFirst '?' behind).2, hread.trans ?_⟩
  cases checkAuthority (authorityOf s) <;> rfl

/-! ### Faults that are not reported -/

section

variable {s : List Char} (hhost : IsAuthority (authorityOf s))

include hhost

theorem ofUrl_of_foreign (hscheme : schemeOf s ∉ schemes) : ofUrl s = .error (.scheme (schemeOf s)) := by
  obtain ⟨path, query, hread⟩ := read_eq s
  rw [checkAuthority_eq_ok_iff.mpr hhost] at hread
  rw [ofUrl, hread]
  change (if schemeOf s ∉ schemes then _ else _) = _
  rw [if_pos hscheme]
  rfl

theorem ofUrl_of_known (hscheme : schemeOf s ∈ schemes) :
    ∃ settings : Option Nat → Settings, ofUrl s = settings <$> (readPort (portOf s)).mapError .url := by
  obtain ⟨path, query, hread⟩ := read_eq s
  rw [checkAuthority_eq_ok_iff.mpr hhost] at hread
  rw [ofUrl, hread]
  change ∃ settings, (if schemeOf s ∉ schemes then _ else _) = _
  rw [if_neg (not_not_intro hscheme)]
  exact ⟨_, rfl⟩

end

theorem ofUrl_url_iff {s : List Char} : (∃ e, ofUrl s = .error (.url e)) ↔ Misaddressed s := by
  by_cases hhost : IsAuthority (authorityOf s)
  · by_cases hscheme : schemeOf s ∈ schemes
    · obtain ⟨settings, hurl⟩ := ofUrl_of_known hhost hscheme
      simp only [hurl, Attempt.map_eq_error_iff, Attempt.mapError_eq_error_iff]
      constructor
      · rintro ⟨e, cause, hport, -⟩
        refine .port hscheme fun hnumber => ?_
        obtain ⟨n, hn⟩ := readPort_succeeds_iff.mpr hnumber
        rw [hn] at hport
        cases hport
      · rintro (hnone | ⟨-, hport⟩)
        · exact absurd hhost hnone
        · cases hread : readPort (portOf s) with
          | error e => exact ⟨e, e, rfl, rfl⟩
          | ok n => exact absurd (readPort_succeeds_iff.mp ⟨n, hread⟩) hport
    · rw [ofUrl_of_foreign hhost hscheme]
      refine iff_of_false (by simp) ?_
      rintro (hnone | ⟨hknown, -⟩)
      · exact hnone hhost
      · exact hscheme hknown
  · obtain ⟨path, query, hread⟩ := read_eq s
    cases hcheck : checkAuthority (authorityOf s) with
    | ok => exact absurd (checkAuthority_eq_ok_iff.mp hcheck) hhost
    | error e =>
        have hurl : ofUrl s = .error (.url e) := by
          rw [ofUrl, hread, hcheck]
          rfl
        exact iff_of_true ⟨e, hurl⟩ (.host hhost)

theorem ofPlain_eq_error {s : List Char} {e : SourceNameError} (h : ofPlain s = .error e) : e = .form := by
  unfold ofPlain at h
  dsimp only at h
  split at h
  · cases h
  · exact (Except.error.inj h).symm

/-- The settings are kept if they name a database. -/
def named (settings : Settings) : Except SourceNameError Settings :=
  if settings.name = "" then .error .noDatabase else .ok settings

theorem parseSourceName_eq (source : String) :
    parseSourceName source =
      if trim source.toList = [] then .error .empty
      else (if hasScheme (trim source.toList) then ofUrl (trim source.toList)
        else ofPlain (trim source.toList)) >>= named := by
  have hnamed : (fun settings : Settings => (do
      if settings.name == "" then throw .noDatabase
      return settings : Except SourceNameError Settings)) = named := by
    funext settings
    by_cases hname : settings.name = ""
    · simp only [named, hname, beq_self_eq_true, if_true]
      rfl
    · simp only [named, beq_eq_false_iff_ne.mpr hname, if_neg hname, Bool.false_eq_true, if_false]
      rfl
  rw [← hnamed, parseSourceName]
  by_cases hempty : trim source.toList = []
  · rw [if_pos hempty, if_pos (List.isEmpty_iff.mpr hempty)]
    rfl
  · rw [if_neg hempty, if_neg (mt List.isEmpty_iff.mp hempty)]
    cases hasScheme (trim source.toList) <;> rfl

theorem name_ne_empty_of_parseSourceName {source : String} {settings : Settings}
    (h : parseSourceName source = .ok settings) : settings.name ≠ "" := by
  rw [parseSourceName_eq] at h
  split at h
  · cases h
  · obtain ⟨found, -, hnamed⟩ := Attempt.bind_eq_ok_iff.mp h
    unfold named at hnamed
    split at hnamed
    case isTrue => cases hnamed
    case isFalse hname =>
        cases hnamed
        exact hname

theorem named_ne_url (settings : Settings) (e : UrlError) : named settings ≠ .error (.url e) := by
  unfold named
  split <;> simp

theorem parseSourceName_url_iff {source : String} : (∃ e, parseSourceName source = .error (.url e)) ↔
    Credentials.mark <:+: trim source.toList ∧ Misaddressed (trim source.toList) := by
  rw [parseSourceName_eq, ← Credentials.hasScheme_iff, ← hasScheme_eq, ← ofUrl_url_iff]
  by_cases hempty : trim source.toList = []
  · rw [if_pos hempty, hempty]
    exact iff_of_false (by simp) fun h => absurd h.1 (by decide)
  · rw [if_neg hempty]
    simp only [Attempt.bind_eq_error_iff, named_ne_url, and_false, exists_false, or_false]
    by_cases hscheme : hasScheme (trim source.toList) = true
    · rw [if_pos hscheme]
      exact (and_iff_right hscheme).symm
    · rw [if_neg hscheme]
      refine iff_of_false ?_ fun h => hscheme h.1
      rintro ⟨e, hplain⟩
      cases ofPlain_eq_error hplain

theorem report?_eq_none_iff {e : SourceNameError} : e.report? = none ↔ ∃ cause, e = .url cause := by
  cases e <;> simp [SourceNameError.report?]

theorem kind_of_report? {e : SourceNameError} {r : Report} (h : e.report? = some r) : r.kind = .configuration := by
  cases e with
  | url cause => cases h
  | empty | scheme | form | noDatabase => exact Option.some.inj h ▸ rfl

/-- A source name gives settings that name a database, or a fault that is reported as one of the configuration,
unless it has the mark of a scheme and what is around it is no address. -/
theorem parseSourceName_outcome (source : String) :
    (∀ settings, parseSourceName source = .ok settings → settings.name ≠ "") ∧
    ((∀ e, parseSourceName source = .error e → ∃ r, e.report? = some r ∧ r.kind = .configuration) ↔
      ¬ (Credentials.mark <:+: trim source.toList ∧ Misaddressed (trim source.toList))) := by
  refine ⟨fun settings => name_ne_empty_of_parseSourceName, ?_⟩
  have hurl : (∃ e, parseSourceName source = .error e ∧ e.report? = none) ↔
      ∃ cause, parseSourceName source = .error (.url cause) := by
    simp [report?_eq_none_iff]
  rw [← parseSourceName_url_iff, ← hurl]
  exact Attempt.reported_iff fun _ _ => kind_of_report?

theorem parseSourceName_escapes_port :
    ∃ e, parseSourceName "mysql://u:p@h:99999/shop" = .error e ∧ e.report? = none := by
  have hfault : parseSourceName "mysql://u:p@h:99999/shop" = .error (.url .port) := by decide +kernel
  exact ⟨_, hfault, rfl⟩

end GormModels.Database
