import GormModels.Proofs.Sql.Mysql.Statement
import GormModels.Proofs.Text.Letter

/-!
# No table is lost

A statement that starts with CREATE TABLE declares a table or stops the whole text, unless a comment keeps the
word TABLE from being found again in the source of a command.
-/

namespace GormModels.Sql

open Text

/-- A comment stands in the gap. -/
def Commented (gap : List Char) : Prop := ∃ c ∈ gap, isBlank c = false

theorem not_commented_iff {gap : List Char} : ¬Commented gap ↔ ∀ c ∈ gap, isBlank c = true := by
  simp [Commented]

theorem commented_append_iff {gap gap' : List Char} :
    Commented (gap ++ gap') ↔ Commented gap ∨ Commented gap' := by
  simp only [Commented, List.mem_append, or_and_right, exists_or]

/-! ### The words of CREATE TABLE in the source -/

theorem soleLetters_of_mem_headWords {word : String} (hmem : word ∈ headWords) :
    word.toList ≠ [] ∧ ∀ c ∈ word.toList, c ∈ soleLetters := by
  have hcheck : ∀ word ∈ headWords, word.toList ≠ [] ∧ word.toList.all (· ∈ soleLetters) = true := by decide
  exact (hcheck word hmem).imp_right fun hall c hc => of_decide_eq_true (List.all_eq_true.mp hall c hc)

/-- A word is told from another one that does not start as it does. -/
theorem afterWord?_source_eq_none {source : List Char} {word other : String} (hsource : upper source = word.toList)
    (hother : ¬word.toList <+: other.toList ∧ ¬other.toList <+: word.toList) (rest : List Char) :
    afterWord? other (source ++ rest) = none := by
  rw [afterWord?, if_neg]
  rw [beq_iff_eq]
  intro heq
  obtain hle | hle := Nat.le_total other.length source.length
  · rw [List.take_append_of_le_length hle] at heq
    refine hother.2 ⟨upper (source.drop other.length), ?_⟩
    rw [← heq, ← hsource, upper, upper, ← List.flatMap_append, List.take_append_drop]
    rfl
  · rw [List.take_append, List.take_of_length_le hle, upper, List.flatMap_append] at heq
    exact hother.1 ⟨_, by rw [← hsource]; exact heq⟩

section

variable {source : List Char} {word : String} (hmem : word ∈ headWords) (hsource : upper source = word.toList)

include hmem hsource

theorem length_of_upper : source.length = word.length := by
  rw [length_eq_of_upper_eq hsource (soleLetters_of_mem_headWords hmem).2]
  rfl

theorem exists_head_of_upper : ∃ c more, source = c :: more ∧ isWordChar c = true := by
  have hascii (c : Char) : c.toNat < 128 → c.toUpper ∈ soleLetters → isWordChar c = true :=
    of_ascii (p := fun c => c.toUpper ∈ soleLetters → isWordChar c = true) (by decide)
  obtain ⟨hne, hletters⟩ := soleLetters_of_mem_headWords hmem
  cases source with
  | nil => exact absurd hsource.symm hne
  | cons c more =>
      rw [upper, List.flatMap_cons] at hsource
      have hupper : ∀ d ∈ upperChar c, d ∈ soleLetters := fun d hd =>
        hletters d (hsource ▸ List.mem_append_left _ hd)
      obtain ⟨d, hd⟩ := upperChar_eq_singleton hupper
      have hlt := lt_of_upperChar_eq (hupper d (by simp [hd])) hd
      rw [upperChar, if_pos hlt] at hupper
      exact ⟨c, more, rfl, hascii c hlt (hupper _ List.mem_cons_self)⟩

theorem afterWord?_source {rest : List Char} (hends : rest.head?.any isWordChar = false) :
    afterWord? word (source ++ rest) = some rest := by
  rw [afterWord?, ← length_of_upper hmem hsource, List.take_left, hsource, if_pos (by simp)]
  simp only [List.drop_left, hends]
  rfl

theorem trimLeft_source (rest : List Char) : trimLeft (source ++ rest) = source ++ rest := by
  obtain ⟨c, more, rfl, hword⟩ := exists_head_of_upper hmem hsource
  have hblank : isBlank c = false := by
    by_contra hblank
    rw [Bool.not_eq_false] at hblank
    rw [isWordChar_of_isBlank hblank] at hword
    cases hword
  rw [List.cons_append, trimLeft_of_head hblank]

end

theorem afterWord?_of_sign {c : Char} (hsign : c ∈ commentSigns) {word : String} {letters : List Char}
    (hword : word.toList = 'T' :: letters) (s : List Char) : afterWord? word (c :: s) = none := by
  have hupper : ∀ d ∈ commentSigns, upperChar d = [d] ∧ d ≠ 'T' := forall_mem_of_all (by decide)
  obtain ⟨hself, hne⟩ := hupper c hsign
  have hlength : word.length = letters.length + 1 := by rw [← String.length_toList, hword, List.length_cons]
  rw [afterWord?, if_neg]
  rw [beq_iff_eq, hlength, List.take_succ_cons, upper, List.flatMap_cons, hself, hword]
  intro heq
  exact hne (List.cons.inj heq).1

/-- The first character of a commented gap that is no blank starts a comment. -/
theorem trimLeft_commented {gap : List Char} (hgap : IsGap gap) (hcommented : Commented gap) (s : List Char) :
    ∃ c rest, trimLeft (gap ++ s) = c :: rest ∧ c ∈ commentSigns := by
  obtain ⟨d, hd, hblank⟩ := hcommented
  have hne : trimLeft gap ≠ [] := by
    intro hnil
    rw [trimLeft, List.dropWhile_eq_nil_iff] at hnil
    rw [hnil d hd] at hblank
    cases hblank
  obtain ⟨c, rest, htrim⟩ := List.exists_cons_of_ne_nil hne
  refine ⟨c, rest ++ s, ?_, hgap c (by simp [htrim])⟩
  rw [trimLeft] at htrim
  rw [trimLeft, List.dropWhile_append, htrim]
  rfl

/-- No word is found where a comment stands first. -/
theorem namesTable_of_commented {gap : List Char} (hgap : IsGap gap) (hcommented : Commented gap) (s : List Char) :
    namesTable (gap ++ s) = false := by
  obtain ⟨c, more, htrim, hsign⟩ := trimLeft_commented hgap hcommented s
  simp only [namesTable, htrim]
  rw [afterWord?_of_sign hsign rfl]
  dsimp only
  rw [afterWord?_of_sign hsign rfl]
  rfl

section

variable {gap source rest : List Char} (hgap : IsGap gap) (hsource : upper source = "TABLE".toList)
  (hends : rest.head?.any isWordChar = false)

include hgap hsource hends

/-- Behind CREATE alone, TABLE is found unless a comment stands before it. -/
theorem namesTable_plain : namesTable (gap ++ (source ++ rest)) = true ↔ ¬Commented gap := by
  by_cases hcommented : Commented gap
  · simp [namesTable_of_commented hgap hcommented, hcommented]
  · simp only [namesTable, trimLeft_append (not_commented_iff.mp hcommented), trimLeft_source (by decide) hsource,
      hcommented, not_false_iff, iff_true]
    rw [afterWord?_source_eq_none hsource (by decide) rest]
    dsimp only
    rw [afterWord?_source (by decide) hsource hends]
    rfl

/-- Behind CREATE and TEMPORARY, TABLE is found unless a comment stands before either. -/
theorem namesTable_temporary {gap' source' : List Char} (hgap' : IsGap gap')
    (hsource' : upper source' = "TEMPORARY".toList) (hbehind : (gap ++ source).head?.any isWordChar = false) :
    namesTable (gap' ++ (source' ++ (gap ++ (source ++ rest)))) = true ↔ ¬Commented (gap' ++ gap) := by
  rw [commented_append_iff]
  obtain ⟨c, more, hhead, hword⟩ := exists_head_of_upper (by decide) hsource
  have hsolid : (gap ++ (source ++ rest)).head?.any isWordChar = false := by
    rwa [← List.append_assoc, List.head?_append_of_ne_nil _ (by simp [hhead])]
  by_cases hfirst : Commented gap'
  · simp [namesTable_of_commented hgap' hfirst, hfirst]
  · simp only [namesTable, trimLeft_append (not_commented_iff.mp hfirst), trimLeft_source (by decide) hsource',
      afterWord?_source (by decide) hsource' hsolid, hfirst, false_or]
    by_cases hsecond : Commented gap
    · simp only [hsecond, not_true, iff_false]
      split
      · obtain ⟨d, found, htrim, hsign⟩ := trimLeft_commented hgap hsecond (source ++ rest)
        rw [htrim, afterWord?_of_sign hsign rfl]
        simp
      · rw [afterWord?_source_eq_none hsource' (by decide)]
        simp
    · -- a word with nothing but blanks between it and the next one has a blank behind it
      have hspace : (gap ++ (source ++ rest)).head?.any isBlank = true := by
        cases hgaps : gap with
        | cons d found => simp [not_commented_iff.mp hsecond d (by simp [hgaps])]
        | nil => simp [hgaps, hhead, hword] at hbehind
      rw [if_pos hspace, trimLeft_append (not_commented_iff.mp hsecond), trimLeft_source (by decide) hsource,
        afterWord?_source (by decide) hsource hends]
      simp [hsecond]

end

/-! ### The statements of a text -/

theorem isInfix_of_mem_splitParts {α : Type} {ends : α → Bool} {part rest found : List α}
    (h : found ∈ splitParts ends part rest) : found <:+: part.reverse ++ rest := by
  induction rest generalizing part with
  | nil =>
      rw [splitParts] at h
      split at h
      · simp at h
      · rw [List.mem_singleton.mp h]
        exact (List.prefix_append _ _).isInfix
  | cons a rest ih =>
      rw [splitParts] at h
      have hlater : found ∈ splitParts ends [] rest → found <:+: part.reverse ++ a :: rest := by
        intro hfound
        obtain ⟨front, back, heq⟩ := ih hfound
        rw [List.reverse_nil, List.nil_append] at heq
        exact ⟨part.reverse ++ a :: front, back, by simp [← heq]⟩
      split at h
      · split at h
        · exact hlater h
        · obtain rfl | h := List.mem_cons.mp h
          · exact (List.prefix_append _ _).isInfix
          · exact hlater h
      · simpa using ih h

theorem isGap_nil : IsGap [] := by
  intro c hc
  simp [trimLeft] at hc

/-- How tokens are cut out does not depend on what is skipped before the first. -/
theorem Lexed.leading {part : List Token} (h : Lexed part) : Lexed (part.modifyHead Token.leading) := by
  cases part with
  | nil => exact h
  | cons first rest =>
      obtain ⟨hgap, hsolid, hsource, hstops⟩ := h
      refine ⟨?_, ?_, ?_, ?_⟩
      · exact List.forall_mem_cons.mpr ⟨isGap_nil, fun t ht => hgap t (List.mem_cons_of_mem _ ht)⟩
      · exact List.forall_mem_cons.mpr
          ⟨hsolid first List.mem_cons_self, fun t ht => hsolid t (List.mem_cons_of_mem _ ht)⟩
      · exact List.forall_mem_cons.mpr
          ⟨hsource first List.mem_cons_self, fun t ht => hsource t (List.mem_cons_of_mem _ ht)⟩
      · cases rest with
        | nil => exact .singleton _
        | cons next rest => exact .cons_cons (List.isChain_cons_cons.mp hstops).1 hstops.tail

theorem Lexed.part {tokens part : List Token} (h : Lexed tokens) (hpart : part ∈ partsOf tokens) : Lexed part := by
  obtain ⟨found, hfound, rfl⟩ := List.mem_map.mp hpart
  have hinside : found <:+: tokens := isInfix_of_mem_splitParts hfound
  have hlexed : Lexed found :=
    { gap := fun t ht => h.gap t (hinside.subset ht)
      solid := fun t ht => h.solid t (hinside.subset ht)
      source := fun t ht => h.source t (hinside.subset ht)
      stops := h.stops.infix hinside }
  exact hlexed.leading

/-- A text falls into parts that are read as statements. -/
def ReadAs [Dialect] (text : String) (parts : List (List Token)) (statements : List Statement) : Prop :=
  ∃ tokens, tokensOf text = .ok tokens ∧ partsOf tokens = parts ∧ statementsIn text = .ok statements

section

variable [Dialect] {text : String} {parts : List (List Token)} {statements : List Statement}

theorem exists_readAs (h : statementsIn text = .ok statements) : ∃ parts, ReadAs text parts statements := by
  obtain ⟨⟨placed, hplaced, -⟩, -⟩ := statementsIn_eq_ok_iff.mp h
  exact ⟨_, _, tokensOf_eq_ok_iff.mpr ⟨placed, hplaced, rfl⟩, rfl, h⟩

/-- Each statement of a text is read from its part by a grammar. -/
theorem ReadAs.read [ReadsStatements] (h : ReadAs text parts statements) : ∃ read, IsGrammar read ∧
    List.Forall₂ (fun part s => read part = some s) parts statements := by
  obtain ⟨tokens, htokens, rfl, hstatements⟩ := h
  obtain ⟨read, hgrammar, hread⟩ := ReadsStatements.exists_grammar
  exact ⟨read, hgrammar, (hread htokens).mp (statementsIn_eq_ok_iff.mp hstatements).2⟩

theorem ReadAs.lexed [LexesWords] (h : ReadAs text parts statements) : ∀ part ∈ parts, Lexed part := by
  obtain ⟨tokens, htokens, rfl, -⟩ := h
  exact fun part hpart => (LexesWords.lexed htokens).part hpart

/-- What holds of each statement that is read from its part holds of all statements of a text. -/
theorem ReadAs.forall₂ [LexesWords] [ReadsStatements] (h : ReadAs text parts statements)
    {p : List Token → Statement → Prop}
    (hp : ∀ read part s, IsGrammar read → read part = some s → Lexed part → s ∈ statements → p part s) :
    List.Forall₂ p parts statements := by
  obtain ⟨read, hgrammar, hread⟩ := h.read
  rw [List.forall₂_iff_get] at hread ⊢
  obtain ⟨hlength, hread⟩ := hread
  exact ⟨hlength, fun i hpart hs => hp read _ _ hgrammar (hread i hpart hs)
    (h.lexed _ (List.get_mem parts ⟨i, hpart⟩)) (List.get_mem statements ⟨i, hs⟩)⟩

end

/-! ### Statements that create tables -/

/-- Tokens start with CREATE. -/
def StartsCreate (tokens : List Token) : Prop := ∃ create rest, tokens = create :: rest ∧ create.isWord "CREATE" = true

/-- A statement starts with CREATE TABLE or CREATE TEMPORARY TABLE, and the gap is what stands between these
words. -/
inductive CreatesTable : List Token → List Char → Prop
  | plain {create table : Token} {rest : List Token} (hcreate : create.isWord "CREATE" = true)
      (htable : table.isWord "TABLE" = true) : CreatesTable (create :: table :: rest) table.skipped
  | temporary {create temporary table : Token} {rest : List Token} (hcreate : create.isWord "CREATE" = true)
      (htemporary : temporary.isWord "TEMPORARY" = true) (htable : table.isWord "TABLE" = true) :
      CreatesTable (create :: temporary :: table :: rest) (temporary.skipped ++ table.skipped)

def Statement.IsCommand (s : Statement) : Prop := ∃ verb body sql, s = .command verb body sql

/-- Ways in which a statement that creates a table declares none and is no error: as a command with a comment
between its first words, and behind TEMPORARY or before FUNCTION as anything that is neither a table nor a command. -/
inductive Lost (part : List Token) (s : Statement) : Prop
  | command {gap : List Char} (hcreates : CreatesTable part gap) (hcommand : s.IsCommand)
      (hcommented : Commented gap) : Lost part s
  | temporary {create temporary table : Token} {rest : List Token}
      (htokens : part = create :: temporary :: table :: rest) (hcreate : create.isWord "CREATE" = true)
      (htemporary : temporary.isWord "TEMPORARY" = true) (htable : table.isWord "TABLE" = true)
      (hdefinition : s.definition? = none) (hcommand : ¬s.IsCommand) : Lost part s
  | function {create table function : Token} {rest : List Token}
      (htokens : part = create :: table :: function :: rest) (hcreate : create.isWord "CREATE" = true)
      (htable : table.isWord "TABLE" = true) (hfunction : function.isWord "FUNCTION" = true)
      (hdefinition : s.definition? = none) (hcommand : ¬s.IsCommand) : Lost part s

/-- A statement declares one table. -/
def Kept (s : Statement) : Prop := ∃ t, s.declare = .ok (some t)

section

variable {part : List Token} {s : Statement} {gap : List Char} {read : List Token → Option Statement}

theorem CreatesTable.startsCreate (hcreates : CreatesTable part gap) : StartsCreate part := by
  cases hcreates with
  | plain hcreate htable => exact ⟨_, _, rfl, hcreate⟩
  | temporary hcreate htemporary htable => exact ⟨_, _, rfl, hcreate⟩

theorem Lexed.stops_read {t : Token} {rest : List Token} (h : Lexed (t :: rest)) {word : String}
    (hmem : word ∈ headWords) (hword : t.isWord word = true) : (Token.read rest).head?.any isWordChar = false := by
  cases rest with
  | nil => rfl
  | cons next rest =>
      have hstops := (List.isChain_cons_cons.mp h.stops).1 word hmem hword
      have hne : next.skipped ++ next.source ≠ [] := by simp [h.solid next (by simp)]
      rwa [Token.read, List.flatMap_cons, List.head?_append_of_ne_nil _ hne]

theorem Lexed.tail {t : Token} {rest : List Token} (h : Lexed (t :: rest)) : Lexed rest where
  gap := fun n hn => h.gap n (List.mem_cons_of_mem _ hn)
  solid := fun n hn => h.solid n (List.mem_cons_of_mem _ hn)
  source := fun n hn => h.source n (List.mem_cons_of_mem _ hn)
  stops := h.stops.tail

/-- Behind CREATE, a table is named unless a comment stands in the gap. -/
theorem namesTable_of_creates {create : Token} {rest : List Token} (hlexed : Lexed (create :: rest))
    (hcreates : CreatesTable (create :: rest) gap) : namesTable (Token.read rest) = true ↔ ¬Commented gap := by
  cases hcreates with
  | @plain _ table rest hcreate htable =>
      have htail := hlexed.tail
      rw [Token.read, List.flatMap_cons, List.append_assoc]
      exact namesTable_plain (htail.gap table List.mem_cons_self)
        (htail.source table List.mem_cons_self "TABLE" (by decide) htable) (htail.stops_read (by decide) htable)
  | @temporary _ temporary table rest hcreate htemporary htable =>
      have hfirst := hlexed.tail
      have hsecond := hfirst.tail
      have hbehind := (List.isChain_cons_cons.mp hfirst.stops).1 "TEMPORARY" (by decide) htemporary
      simp only [Token.read, List.flatMap_cons, List.append_assoc]
      exact namesTable_temporary (hsecond.gap table List.mem_cons_self)
        (hsecond.source table List.mem_cons_self "TABLE" (by decide) htable)
        (hsecond.stops_read (by decide) htable) (hfirst.gap temporary List.mem_cons_self)
        (hfirst.source temporary List.mem_cons_self "TEMPORARY" (by decide) htemporary) hbehind

section

variable (hgrammar : IsGrammar read) (hread : read part = some s) (hlexed : Lexed part)
  (hcreates : CreatesTable part gap)

include hgrammar hread hlexed hcreates

/-- A command that creates a table is an error unless a comment stands between its first words. -/
theorem declare_of_command (hcommand : s.IsCommand) :
    (Commented gap → s.declare = .ok none) ∧
      (¬Commented gap → ∃ near, s.declare = .error (.unsupportedTable near)) := by
  obtain ⟨verb, body, sql, rfl⟩ := hcommand
  obtain ⟨create, rest, rfl, hcreate⟩ := hcreates.startsCreate
  obtain ⟨hverb, hbody⟩ := hgrammar.command hread hcreate
  have hnames := namesTable_of_creates hlexed hcreates
  have hupper : upperText verb = "CREATE" := by
    rw [upperText, hverb, hlexed.source create List.mem_cons_self "CREATE" (by decide) hcreate]
    rfl
  constructor
  · intro hcommented
    refine declare_of_nothing rfl ?_
    rintro ⟨_, _, _, ⟨⟩, -, hfound⟩
    rw [hbody, hnames] at hfound
    exact hfound hcommented
  · intro hcommented
    exact declare_of_wouldCreate ⟨verb, body, sql, rfl, hupper, by rwa [hbody, hnames]⟩

theorem command_or_definition_or_lost : (s.IsCommand ∨ s.definition?.isSome) ∨ Lost part s := by
  by_cases hcommand : s.IsCommand
  · exact .inl (.inl hcommand)
  · cases hdefinition : s.definition? with
    | some d => exact .inl (.inr rfl)
    | none =>
        refine .inr ?_
        cases hcreates with
        | plain hcreate htable =>
            obtain (hsome | hcommand') | hbehind := hgrammar.table hread hcreate htable
            · rw [hdefinition] at hsome
              cases hsome
            · exact absurd hcommand' hcommand
            · obtain ⟨function, hhead, hfunction⟩ := (Option.any_eq_true _ _).mp hbehind
              obtain ⟨more, rfl⟩ := List.head?_eq_some_iff.mp hhead
              exact .function rfl hcreate htable hfunction hdefinition hcommand
        | temporary hcreate htemporary htable =>
            exact .temporary rfl hcreate htemporary htable hdefinition hcommand

end

theorem declare_of_neither (hdefinition : s.definition? = none) (hcommand : ¬s.IsCommand) : s.declare = .ok none := by
  refine declare_of_nothing hdefinition ?_
  rintro ⟨verb, body, sql, rfl, -⟩
  exact hcommand ⟨verb, body, sql, rfl⟩

theorem declare_of_lost (hgrammar : IsGrammar read) (hread : read part = some s) (hlexed : Lexed part)
    (hlost : Lost part s) : s.declare = .ok none := by
  cases hlost with
  | command hcreates hcommand hcommented =>
      exact (declare_of_command hgrammar hread hlexed hcreates hcommand).1 hcommented
  | temporary _ _ _ _ hdefinition hcommand => exact declare_of_neither hdefinition hcommand
  | function _ _ _ _ hdefinition hcommand => exact declare_of_neither hdefinition hcommand

/-- A statement that creates a table, and is no error, is kept unless it is lost. -/
theorem kept_iff_not_lost (hgrammar : IsGrammar read) (hread : read part = some s) (hlexed : Lexed part)
    (hcreates : CreatesTable part gap) {entry : Option TableDeclaration} (hdeclare : s.declare = .ok entry) :
    Kept s ↔ ¬Lost part s := by
  constructor
  · rintro ⟨t, hkept⟩ hlost
    rw [declare_of_lost hgrammar hread hlexed hlost] at hkept
    cases hkept
  · intro hlost
    obtain (hcommand | hdefinition) | hlost' := command_or_definition_or_lost hgrammar hread hlexed hcreates
    · by_cases hcommented : Commented gap
      · exact absurd (.command hcreates hcommand hcommented) hlost
      · obtain ⟨near, herror⟩ := (declare_of_command hgrammar hread hlexed hcreates hcommand).2 hcommented
        rw [herror] at hdeclare
        cases hdeclare
    · obtain ⟨d, hd⟩ := Option.isSome_iff_exists.mp hdefinition
      obtain ⟨-, hrel⟩ := declare_eq_ok_iff.mp hdeclare
      rw [hd] at hrel
      obtain ⟨ht⟩ := hrel
      exact ⟨_, hdeclare⟩
    · exact absurd hlost' hlost

end

/-! ### Texts -/

section

variable [Dialect] {text : String} {statements : List Statement} {s : Statement} {e : SqlError}

/-- A statement with an error stops the text, though an earlier one may do so first. -/
theorem parseTables_of_error (hstatements : statementsIn text = .ok statements) (hs : s ∈ statements)
    (herror : s.declare = .error e) : ∃ first, parseTables text = .error first ∧
      ((∃ r, first.report? = some r ∧ r.kind = .sql) ∨ ∃ column table, first = .namelessType column table) := by
  cases hresult : parseTables text with
  | error first =>
      refine ⟨first, rfl, ?_⟩
      obtain hread | ⟨before, failed, after, -, -, hfailed⟩ := parseTables_eq_error_iff.mp hresult
      · rw [hstatements] at hread
        cases hread
      · exact report_of_declare hfailed
  | ok tables =>
      obtain ⟨found, entries, hfound, hentries, -⟩ := parseTables_eq_ok_iff.mp hresult
      cases hstatements.symm.trans hfound
      obtain ⟨entry, -, hentry⟩ := Attempt.exists_of_forall₂_of_mem hentries hs
      rw [herror] at hentry
      cases hentry

/-- What becomes of the statements of a text that create tables. Where it returns tables, these are the declarations of
its statements in their order, and each statement that creates a table has one unless it is lost. A command that
creates a table stops the text unless a comment stands between its first words. -/
structure KeepsTables (text : String) : Prop where
  kept {tables : List TableDeclaration} : parseTables text = .ok tables → ∃ parts statements entries,
    ReadAs text parts statements ∧ List.Forall₂ (fun s entry => s.declare = .ok entry) statements entries ∧
      tables = entries.reduceOption ∧
      List.Forall₂ (fun part s => ∀ gap, CreatesTable part gap → (Kept s ↔ ¬Lost part s)) parts statements
  stopped {parts : List (List Token)} {statements : List Statement} : ReadAs text parts statements →
    List.Forall₂ (fun part s => ∀ gap, CreatesTable part gap → s.IsCommand →
      (¬Commented gap → ∃ e, parseTables text = .error e ∧
        ((∃ r, e.report? = some r ∧ r.kind = .sql) ∨ ∃ column table, e = .namelessType column table)) ∧
      (Commented gap → s.declare = .ok none)) parts statements

end

/-- A definition behind a commented CREATE that is no table for the words that follow it. -/
def commentedCreate : String := "CREATE /* c */ TABLE t (a INT) GARBAGE HERE"

end GormModels.Sql
