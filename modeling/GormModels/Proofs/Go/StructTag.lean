import GormModels.Proofs.Go.Literal

/-!
# Keys of a struct tag

The tag of a field is a row of keys with quoted values, which programs look up at run time. A value ends at the
first quotation mark that no backslash escapes, so a text pasted into one has to keep its own marks escaped.
-/

namespace GormModels.Go

variable {c : Column} {options : Options}

def isKeyChar (c : Char) : Bool := ' ' < c && c != ':' && c != '"' && c != '\x7f'

/-- A quoted value behind its opening quotation mark, up to the closing one, and what stands behind it. -/
def quotedEnd? : List Char → Option (List Char × List Char)
  | [] => none
  | '"' :: rest => some (['"'], rest)
  | '\\' :: c :: rest => (quotedEnd? rest).map fun (value, behind) => ('\\' :: c :: value, behind)
  | c :: rest => (quotedEnd? rest).map fun (value, behind) => (c :: value, behind)

theorem length_quotedEnd? {s value behind : List Char} (hend : quotedEnd? s = some (value, behind)) :
    behind.length < s.length := by
  fun_induction quotedEnd? s generalizing value behind with
  | case1 => cases hend
  | case2 rest =>
      cases hend
      simp
  | case3 c rest ih =>
      obtain ⟨found, hfound, heq⟩ := Option.map_eq_some_iff.mp hend
      cases heq
      have := ih hfound
      simp only [List.length_cons]
      omega
  | case4 c rest _ _ ih =>
      obtain ⟨found, hfound, heq⟩ := Option.map_eq_some_iff.mp hend
      cases heq
      have := ih hfound
      simp only [List.length_cons]
      omega

/-- The first key of a tag with its value in quotation marks, and what stands behind them. -/
def tagEntry? (tag : List Char) : Option ((List Char × List Char) × List Char) :=
  let rest := tag.dropWhile (· == ' ')
  let key := rest.takeWhile isKeyChar
  match key, rest.dropWhile isKeyChar with
  | _ :: _, ':' :: '"' :: body =>
    (quotedEnd? body).map fun (value, behind) => ((key, '"' :: value), behind)
  | _, _ => none

theorem length_tagEntry? {tag behind : List Char} {entry : List Char × List Char}
    (hentry : tagEntry? tag = some (entry, behind)) : behind.length < tag.length := by
  unfold tagEntry? at hentry
  dsimp only at hentry
  split at hentry
  case h_1 body _ hrest =>
      obtain ⟨⟨value, rest⟩, hend, heq⟩ := Option.map_eq_some_iff.mp hentry
      obtain ⟨-, rfl⟩ := Prod.mk.inj heq
      have hbehind : rest.length < body.length := length_quotedEnd? hend
      have hkey := (List.dropWhile_suffix isKeyChar (l := tag.dropWhile (· == ' '))).length_le
      have hblank := (List.dropWhile_suffix (· == ' ') (l := tag)).length_le
      rw [hrest, List.length_cons, List.length_cons] at hkey
      change rest.length < tag.length
      omega
  case h_2 => cases hentry

/-- The keys of a tag with their values, up to the first place where there is none. -/
def tagEntries (tag : List Char) : List (List Char × List Char) :=
  match hentry : tagEntry? tag with
  | some (entry, behind) =>
    have := length_tagEntry? hentry
    entry :: tagEntries behind
  | none => []
termination_by tag.length

def lookupTag (key tag : String) : Option String :=
  ((tagEntries tag.toList).lookup key.toList).bind unquote?

theorem quotedEnd?_escapeTagChar (c : Char) (rest : List Char) :
    quotedEnd? (escapeTagChar c ++ rest) =
      (quotedEnd? rest).map fun (value, behind) => (escapeTagChar c ++ value, behind) := by
  unfold escapeTagChar
  split
  case h_3 =>
      -- An escaped pair, and two plain characters behind it.
      change Option.map _ (Option.map _ (Option.map _ (quotedEnd? rest))) = _
      cases quotedEnd? rest <;> rfl
  case h_5 hbackslash hquote _ _ =>
      rw [List.singleton_append, quotedEnd?]
      · rfl
      · exact hquote
      · intro _ _ heq
        exact absurd heq hbackslash
  all_goals rfl

theorem quotedEnd?_escapeTag (s rest : List Char) :
    quotedEnd? (s.flatMap escapeTagChar ++ '"' :: rest) = some (s.flatMap escapeTagChar ++ ['"'], rest) := by
  induction s with
  | nil => rfl
  | cons c s ih =>
      rw [List.flatMap_cons, List.append_assoc, quotedEnd?_escapeTagChar, ih]
      simp

theorem tagEntries_of_some {tag behind : List Char} {entry : List Char × List Char}
    (hentry : tagEntry? tag = some (entry, behind)) : tagEntries tag = entry :: tagEntries behind := by
  rw [tagEntries]
  split
  case h_1 hfound =>
      rw [hentry] at hfound
      cases hfound
      rfl
  case h_2 hnone =>
      rw [hentry] at hnone
      cases hnone

theorem tagEntries_nil : tagEntries [] = [] := by
  rw [tagEntries]
  rfl

theorem tagEntry?_tagPart {blanks : List Char} (hblanks : ∀ c ∈ blanks, c = ' ') (key : String)
    (hne : key.toList ≠ []) (hkey : ∀ c ∈ key.toList, isKeyChar c = true) (value : String) (rest : List Char) :
    tagEntry? (blanks ++ (tagPart key value).toList ++ rest) =
      some ((key.toList, '"' :: (escapeTag value).toList ++ ['"']), rest) := by
  obtain ⟨first, others, hcons⟩ := List.exists_cons_of_ne_nil hne
  have hfirst : first ≠ ' ' := by
    rintro rfl
    exact absurd (hkey ' ' (hcons ▸ List.mem_cons_self)) (by decide)
  have htag : (blanks ++ (tagPart key value).toList ++ rest).dropWhile (· == ' ') =
      key.toList ++ ':' :: '"' :: (value.toList.flatMap escapeTagChar ++ '"' :: rest) := by
    rw [List.append_assoc, List.dropWhile_append_of_pos (by simpa using hblanks)]
    simp [tagPart, escapeTag, hcons, hfirst]
  have hstop : isKeyChar ':' = false := by decide
  unfold tagEntry?
  dsimp only
  rw [htag, List.takeWhile_append_of_pos hkey, List.dropWhile_append_of_pos hkey,
    List.takeWhile_cons_of_neg (by simp [hstop]), List.dropWhile_cons_of_neg (by simp [hstop]), List.append_nil,
    hcons]
  change Option.map _ (quotedEnd? (value.toList.flatMap escapeTagChar ++ '"' :: rest)) = _
  rw [quotedEnd?_escapeTag, escapeTag, String.toList_ofList]
  rfl

theorem tagEntries_fieldTag (options : Options) (c : Column) (jsonName : Option String) :
    tagEntries (fieldTag options c jsonName).toList =
      ("gorm".toList, '"' :: (escapeTag (gormTag options c)).toList ++ ['"']) ::
        jsonName.toList.map fun name => ("json".toList, '"' :: (escapeTag name).toList ++ ['"']) := by
  have hkeys : "gorm".toList.all isKeyChar = true ∧ "json".toList.all isKeyChar = true := by decide
  have hgorm := fun rest => tagEntries_of_some (tagEntry?_tagPart (List.forall_mem_nil _) "gorm" (by decide)
    (List.all_eq_true.mp hkeys.1) (gormTag options c) rest)
  cases jsonName with
  | none =>
      have hentries := hgorm []
      rw [tagEntries_nil, List.append_nil, List.nil_append] at hentries
      rw [fieldTag, String.append_empty, hentries]
      rfl
  | some name =>
      have hspace : ∀ c ∈ [' '], c = ' ' := by simp
      have hjson := tagEntries_of_some (tagEntry?_tagPart hspace "json" (by decide)
        (List.all_eq_true.mp hkeys.2) name [])
      have hentries := hgorm (' ' :: (tagPart "json" name).toList)
      rw [List.append_nil, List.singleton_append, tagEntries_nil] at hjson
      rw [List.nil_append, hjson] at hentries
      rw [fieldTag, String.toList_append, String.toList_append]
      exact hentries

/-- Looking up a key in the tag of a field finds the settings of its column, its JSON name if it has one, and
nothing else. -/
theorem lookupTag_fieldTag (options : Options) (c : Column) (jsonName : Option String) (key : String) :
    lookupTag key (fieldTag options c jsonName) =
      if key = "gorm" then some (gormTag options c) else if key = "json" then jsonName else none := by
  have hvalue : ∀ value : String, unquote? ('"' :: (escapeTag value).toList ++ ['"']) = some value :=
    unquote?_escapeTag
  have hother : ∀ name : String, key ≠ name → (key.toList == name.toList) = false := fun name hne =>
    beq_eq_false_iff_ne.mpr fun heq => hne (String.toList_inj.mp heq)
  rw [lookupTag, tagEntries_fieldTag, List.lookup_cons]
  by_cases hgorm : key = "gorm"
  · subst hgorm
    rw [if_pos rfl, beq_self_eq_true]
    exact hvalue _
  rw [if_neg hgorm, hother _ hgorm]
  cases jsonName with
  | none => exact (ite_self none).symm
  | some name =>
      rw [Option.toList_some, List.map_singleton, List.lookup_cons]
      by_cases hjson : key = "json"
      · subst hjson
        rw [if_pos rfl, beq_self_eq_true]
        exact hvalue name
      · rw [if_neg hjson, hother _ hjson]
        rfl

end GormModels.Go
