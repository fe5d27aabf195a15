import GormModels.Go.Tag
import GormModels.Proofs.Text.Join
import Mathlib.Data.List.Infix

/-!
# Settings of a column's tag

The object mapper cuts the value of a tag into settings at its semicolons. A backslash before a semicolon keeps
the setting together and is dropped. Nothing of a column is escaped for this reader, so the settings come back as
they were meant only where no text of the column has a semicolon and none ends in a backslash that would stand
before one.
-/

namespace GormModels.Go

variable {options : Options} {c : Column}

/-- The settings that a text is cut into: at every semicolon, but for those that a backslash escapes. -/
def splitSettings : List Char → List (List Char)
  | [] => [[]]
  | '\\' :: ';' :: rest => (splitSettings rest).modifyHead (';' :: ·)
  | c :: rest => if c = ';' then [] :: splitSettings rest else (splitSettings rest).modifyHead (c :: ·)

/-- The key of a setting and its value, which the first colon parts; a setting without a colon is a flag. -/
def readSetting (s : List Char) : String × Option String :=
  if ':' ∈ s then (.ofList (s.takeWhile (· != ':')), some (.ofList ((s.dropWhile (· != ':')).drop 1)))
  else (.ofList s, none)

def readSettings (tag : String) : List (String × Option String) :=
  (splitSettings tag.toList).map readSetting

/-- What a column's tag is to tell: its name, its type where types are wanted, what holds of it, and its
default. -/
def meantSettings (options : Options) (c : Column) : List (String × Option String) :=
  [("column", some c.name)] ++
    (if options.withType then [("type", some c.typeText)] else []) ++
    (if c.isPrimaryKey then [("primary_key", none)] else []) ++
    (if c.isUnique && !c.isPrimaryKey then [("unique", none)] else []) ++
    (if c.autoIncrement then [("AUTO_INCREMENT", none)] else []) ++
    (if c.nullable then [] else [("NOT NULL", none)]) ++
    c.default.toList.map fun text => ("default", some (if text = "" then "''" else text))

/-- The texts of a column that its tag repeats. -/
def tagTexts (options : Options) (c : Column) : List String :=
  [c.name] ++ (if options.withType then [c.typeText] else []) ++ c.default.toList

/-- No text in the tag ends its setting early or runs on into the next one. -/
structure Separable (options : Options) (c : Column) : Prop where
  semicolon : ∀ text ∈ tagTexts options c, ';' ∉ text.toList
  backslash : ∀ setting ∈ (columnSettings options c).dropLast, setting.toList.getLast? ≠ some '\\'

/-! ### Splitting -/

theorem splitSettings_ne_nil (s : List Char) : splitSettings s ≠ [] := by
  fun_induction splitSettings s with
  | case1 => simp
  | case2 rest ih => simpa using ih
  | case3 rest => simp
  | case4 c rest _ _ ih => simpa using ih

theorem splitSettings_cons {c : Char} {rest : List Char} (hc : c ≠ ';') (hrest : c = '\\' → rest.head? ≠ some ';') :
    splitSettings (c :: rest) = (splitSettings rest).modifyHead (c :: ·) := by
  rw [splitSettings]
  · exact if_neg hc
  · rintro others rfl rfl
    exact absurd rfl (hrest rfl)

theorem splitSettings_append {text rest : List Char} (htext : ';' ∉ text)
    (hend : text.getLast? = some '\\' → rest.head? ≠ some ';') :
    splitSettings (text ++ rest) = (splitSettings rest).modifyHead (text ++ ·) := by
  induction text with
  | nil =>
      obtain ⟨first, others, hcons⟩ := List.exists_cons_of_ne_nil (splitSettings_ne_nil rest)
      simp [hcons]
  | cons c text ih =>
      rw [List.mem_cons, not_or] at htext
      have hrest : c = '\\' → (text ++ rest).head? ≠ some ';' := by
        rintro rfl
        cases text with
        | nil => exact hend rfl
        | cons d text => simpa using fun heq => htext.2 (by simp [heq])
      rw [List.cons_append, splitSettings_cons (Ne.symm htext.1) hrest, ih htext.2]
      · simp [List.modifyHead_modifyHead, Function.comp_def]
      · intro hlast
        refine hend ?_
        rw [List.getLast?_cons, hlast]
        rfl

theorem splitSettings_of_plain {text : List Char} (htext : ';' ∉ text) : splitSettings text = [text] := by
  have happend : splitSettings (text ++ []) = (splitSettings []).modifyHead (text ++ ·) :=
    splitSettings_append htext (by simp)
  simpa [splitSettings] using happend

theorem splitSettings_semicolon {text : List Char} (htext : ';' ∉ text) (hend : text.getLast? ≠ some '\\')
    (rest : List Char) : splitSettings (text ++ ';' :: rest) = text :: splitSettings rest := by
  rw [splitSettings_append htext fun hlast => absurd hlast hend, splitSettings]
  · simp
  · simp

theorem splitSettings_escaped {text : List Char} (htext : ';' ∉ text) (rest : List Char) :
    splitSettings (text ++ '\\' :: ';' :: rest) = (splitSettings rest).modifyHead (text ++ ';' :: ·) := by
  rw [splitSettings_append htext (by simp), splitSettings]
  simp [List.modifyHead_modifyHead, Function.comp_def]

theorem plain_of_splitSettings_eq_cons {text tail : List Char} {others : List (List Char)}
    (htail : ∀ c ∈ tail.head?, c = ';') (hsplit : splitSettings (text ++ tail) = text :: others) :
    ';' ∉ text ∧ (tail ≠ [] → text.getLast? ≠ some '\\') := by
  -- An escaped semicolon loses its backslash, so that what is read is not what was written.
  have hescaped : ∀ front behind, ';' ∉ front → text ++ tail = front ++ '\\' :: ';' :: behind →
      ∃ rest, text = front ++ ';' :: rest := by
    intro front behind hfront heq
    obtain ⟨first, more, hcons⟩ := List.exists_cons_of_ne_nil (splitSettings_ne_nil behind)
    rw [heq, splitSettings_escaped hfront, hcons, List.modifyHead_cons] at hsplit
    exact ⟨first, (List.cons.inj hsplit).1.symm⟩
  by_cases hmem : ';' ∈ text
  · exfalso
    obtain ⟨front, behind, rfl, hfront⟩ := List.eq_append_cons_of_mem hmem
    by_cases hend : front.getLast? = some '\\'
    · obtain ⟨start, rfl⟩ := List.getLast?_eq_some_iff.mp hend
      rw [List.mem_append, not_or] at hfront
      obtain ⟨rest, hrest⟩ := hescaped start (behind ++ tail) hfront.1 (by simp)
      simp at hrest
    · rw [List.append_assoc, List.cons_append, splitSettings_semicolon hfront hend] at hsplit
      simpa using (List.cons.inj hsplit).1
  · refine ⟨hmem, fun hne hlast => ?_⟩
    obtain ⟨c, behind, rfl⟩ := List.exists_cons_of_ne_nil hne
    obtain rfl := htail c rfl
    obtain ⟨start, rfl⟩ := List.getLast?_eq_some_iff.mp hlast
    rw [List.mem_append, not_or] at hmem
    obtain ⟨rest, hrest⟩ := hescaped start behind hmem.1 (by simp)
    simp at hrest

/-- Texts put together with semicolons come apart again exactly if none has a semicolon and none but the last
ends in a backslash. -/
theorem splitSettings_intercalate_iff {texts : List (List Char)} (hne : texts ≠ []) :
    splitSettings ([';'].intercalate texts) = texts ↔
      (∀ text ∈ texts, ';' ∉ text) ∧ ∀ text ∈ texts.dropLast, text.getLast? ≠ some '\\' := by
  induction texts with
  | nil => exact absurd rfl hne
  | cons text texts ih =>
      cases texts with
      | nil =>
          rw [List.intercalate_singleton]
          constructor
          · intro hsplit
            have hfirst : splitSettings (text ++ []) = text :: [] := by rwa [List.append_nil]
            simpa using plain_of_splitSettings_eq_cons (by simp) hfirst
          · rintro ⟨hfree, -⟩
            exact splitSettings_of_plain (hfree text List.mem_cons_self)
      | cons next texts =>
          rw [List.intercalate_cons_cons, List.append_assoc, List.singleton_append, List.dropLast_cons_cons,
            List.forall_mem_cons (l := next :: texts), List.forall_mem_cons (l := (next :: texts).dropLast)]
          constructor
          · intro hsplit
            obtain ⟨hfree, hend⟩ := plain_of_splitSettings_eq_cons (by simp) hsplit
            rw [splitSettings_semicolon hfree (hend (by simp))] at hsplit
            obtain ⟨hfrees, hends⟩ := (ih (by simp)).mp (List.cons.inj hsplit).2
            exact ⟨⟨hfree, hfrees⟩, hend (by simp), hends⟩
          · rintro ⟨⟨hfree, hfrees⟩, hend, hends⟩
            rw [splitSettings_semicolon hfree hend, (ih (by simp)).mpr ⟨hfrees, hends⟩]

/-! ### Settings and their texts -/

def settingText : String × Option String → String
  | (key, some value) => key ++ ":" ++ value
  | (key, none) => key

theorem settingText_readSetting (s : List Char) : (settingText (readSetting s)).toList = s := by
  rw [readSetting]
  split
  case isTrue hcolon =>
      obtain ⟨key, value, rfl, hkey⟩ := List.eq_append_cons_of_mem hcolon
      simp [settingText, Text.takeWhile_ne_append hkey, Text.dropWhile_ne_append hkey]
  case isFalse => simp [settingText]

theorem readSetting_settingText {setting : String × Option String} (hkey : ':' ∉ setting.1.toList) :
    readSetting (settingText setting).toList = setting := by
  obtain ⟨key, value⟩ := setting
  cases value with
  | none => simp [settingText, readSetting, hkey]
  | some value =>
      simp [settingText, readSetting, Text.takeWhile_ne_append hkey, Text.dropWhile_ne_append hkey]

theorem colon_not_mem_key : ∀ setting ∈ meantSettings options c, ':' ∉ setting.1.toList := by
  intro setting hsetting
  simp only [meantSettings, List.mem_append, List.mem_singleton, List.mem_ite_nil_right, List.mem_ite_nil_left,
    List.mem_map] at hsetting
  obtain (((((rfl | ⟨-, rfl⟩) | ⟨-, rfl⟩) | ⟨-, rfl⟩) | ⟨-, rfl⟩) | ⟨-, rfl⟩) | ⟨text, -, rfl⟩ := hsetting
  all_goals simp

theorem columnSettings_eq (options : Options) (c : Column) :
    columnSettings options c = (meantSettings options c).map settingText := by
  have htexts : ∀ value, settingText ("column", some value) = "column:" ++ value ∧
      settingText ("type", some value) = "type:" ++ value ∧
      settingText ("default", some value) = "default:" ++ value := fun _ => ⟨rfl, rfl, rfl⟩
  have hflags : ∀ key, settingText (key, none) = key := fun _ => rfl
  unfold columnSettings meantSettings
  simp only [List.map_append, List.map_cons, List.map_nil, apply_ite (List.map settingText), htexts, hflags]
  cases c.default with
  | none => rfl
  | some text => simp [htexts]

theorem mem_columnSettings_iff {setting : String} :
    setting ∈ columnSettings options c ↔
      setting = "column:" ++ c.name ∨
      options.withType = true ∧ setting = "type:" ++ c.typeText ∨
      c.isPrimaryKey = true ∧ setting = "primary_key" ∨
      (c.isUnique = true ∧ c.isPrimaryKey = false) ∧ setting = "unique" ∨
      c.autoIncrement = true ∧ setting = "AUTO_INCREMENT" ∨
      c.nullable = false ∧ setting = "NOT NULL" ∨
      ∃ text, c.default = some text ∧ setting = "default:" ++ if text = "" then "''" else text := by
  unfold columnSettings
  cases c.default <;> cases c.nullable <;> simp [List.mem_ite_nil_right]

theorem mem_tagTexts_iff {text : String} :
    text ∈ tagTexts options c ↔
      text = c.name ∨ options.withType = true ∧ text = c.typeText ∨ c.default = some text := by
  simp [tagTexts, List.mem_ite_nil_right]

def tagWords : List String :=
  ["column:", "type:", "primary_key", "unique", "AUTO_INCREMENT", "NOT NULL", "default:", "''"]

theorem forall_columnSettings_iff {d : Char} (hwords : ∀ word ∈ tagWords, d ∉ word.toList) :
    (∀ setting ∈ columnSettings options c, d ∉ setting.toList) ↔
      ∀ text ∈ tagTexts options c, d ∉ text.toList := by
  have hkeyed : ∀ {key text : String}, key ∈ tagWords → (d ∉ (key ++ text).toList ↔ d ∉ text.toList) := by
    intro key text hkey
    simp [hwords key hkey]
  constructor
  · intro hsettings text htext
    obtain rfl | ⟨hwith, rfl⟩ | hdefault := mem_tagTexts_iff.mp htext
    · exact (hkeyed (by simp [tagWords])).mp (hsettings _ (mem_columnSettings_iff.mpr (.inl rfl)))
    · exact (hkeyed (by simp [tagWords])).mp (hsettings _ (mem_columnSettings_iff.mpr (.inr (.inl ⟨hwith, rfl⟩))))
    · by_cases hempty : text = ""
      · simp [hempty]
      · have hsetting : "default:" ++ text ∈ columnSettings options c :=
          mem_columnSettings_iff.mpr (by simp [hdefault, hempty])
        exact (hkeyed (by simp [tagWords])).mp (hsettings _ hsetting)
  · intro htexts setting hsetting
    obtain rfl | ⟨hwith, rfl⟩ | ⟨-, rfl⟩ | ⟨-, rfl⟩ | ⟨-, rfl⟩ | ⟨-, rfl⟩ | ⟨text, hdefault, rfl⟩ :=
      mem_columnSettings_iff.mp hsetting
    · exact (hkeyed (by simp [tagWords])).mpr (htexts _ (mem_tagTexts_iff.mpr (.inl rfl)))
    · exact (hkeyed (by simp [tagWords])).mpr (htexts _ (mem_tagTexts_iff.mpr (.inr (.inl ⟨hwith, rfl⟩))))
    · exact hwords _ (by simp [tagWords])
    · exact hwords _ (by simp [tagWords])
    · exact hwords _ (by simp [tagWords])
    · exact hwords _ (by simp [tagWords])
    · refine (hkeyed (by simp [tagWords])).mpr ?_
      split
      · exact hwords _ (by simp [tagWords])
      · exact htexts _ (mem_tagTexts_iff.mpr (.inr (.inr hdefault)))

/-- Reading parts gives the settings meant exactly if the parts are the texts of these settings. -/
theorem map_readSetting_eq_meantSettings_iff {parts : List (List Char)} :
    parts.map readSetting = meantSettings options c ↔ parts = (columnSettings options c).map String.toList := by
  rw [columnSettings_eq, List.map_map]
  constructor
  · intro heq
    rw [← heq, List.map_map]
    refine (List.map_id parts).symm.trans (List.map_congr_left fun s _ => ?_)
    exact (settingText_readSetting s).symm
  · rintro rfl
    rw [List.map_map]
    refine (List.map_congr_left fun setting hsetting => ?_).trans (List.map_id _)
    exact readSetting_settingText (colon_not_mem_key setting hsetting)

theorem readSettings_gormTag_iff (options : Options) (c : Column) :
    readSettings (gormTag options c) = meantSettings options c ↔ Separable options c := by
  have hne : (columnSettings options c).map String.toList ≠ [] := by simp [columnSettings]
  calc readSettings (gormTag options c) = meantSettings options c
      ↔ splitSettings (gormTag options c).toList = (columnSettings options c).map String.toList :=
        map_readSetting_eq_meantSettings_iff
    _ ↔ (∀ text ∈ (columnSettings options c).map String.toList, ';' ∉ text) ∧
          ∀ text ∈ ((columnSettings options c).map String.toList).dropLast, text.getLast? ≠ some '\\' := by
        rw [gormTag, String.toList_intercalate]
        exact splitSettings_intercalate_iff hne
    _ ↔ (∀ text ∈ tagTexts options c, ';' ∉ text.toList) ∧
          ∀ setting ∈ (columnSettings options c).dropLast, setting.toList.getLast? ≠ some '\\' := by
        rw [List.forall_mem_map, ← List.map_dropLast, List.forall_mem_map, forall_columnSettings_iff (by decide)]
    _ ↔ Separable options c :=
        ⟨fun ⟨hsemicolon, hbackslash⟩ => ⟨hsemicolon, hbackslash⟩, fun h => ⟨h.semicolon, h.backslash⟩⟩

def quotaColumn : Column :=
  { name := "quota", typeName := "VARCHAR", nullable := true, default := some "low;primary_key" }

theorem readSettings_quotaColumn :
    readSettings (gormTag {} quotaColumn) =
      [("column", some "quota"), ("default", some "low"), ("primary_key", none)] ∧
    readSettings (gormTag {} quotaColumn) ≠ meantSettings {} quotaColumn := by
  decide +kernel

end GormModels.Go
