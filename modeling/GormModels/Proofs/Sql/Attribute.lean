import Mathlib.Data.List.Induction
import GormModels.Proofs.Sql.Declaration

/-!
# What the constraints of a column say together

The constraints of a column are taken one after another, each with what it sets. What they come to is said at once
of the whole list: a flag is set if one of them sets it, and a text is that of the last one that has any.
-/

namespace GormModels.Sql

namespace Constraint

def default? : Constraint → Option Node
  | default value => some value
  | _ => none

def comment? : Constraint → Option String
  | comment text => some text.text
  | _ => none

def charset? : Constraint → Option String
  | characterSet name => some name.text
  | _ => none

def collation? : Constraint → Option String
  | collation name => some name.text
  | _ => none

end Constraint

/-- The values of the DEFAULT clauses, in their order. -/
def defaultsOf (constraints : List Constraint) : List Node := constraints.filterMap Constraint.default?

/-- The text of the last value that is not NULL. -/
def lastText? (values : List Node) : Option String := (values.filter (!·.isNull)).getLast?.map Node.valueText

/-- A declaration with what constraints add to it. -/
def withAttributes (d : ColumnDeclaration) (constraints : List Constraint) : ColumnDeclaration :=
  { d with
    notNull := d.notNull || constraints.any (· matches .notNull)
    explicitNull := d.explicitNull || constraints.any (· matches .null)
    default := (lastText? (defaultsOf constraints)).or d.default
    defaultIsNull := d.defaultIsNull || (defaultsOf constraints).any Node.isNull
    autoIncrement := d.autoIncrement || constraints.any (· matches .autoIncrement)
    comment := (constraints.filterMap Constraint.comment?).getLast?.or d.comment
    charset := (constraints.filterMap Constraint.charset?).getLast?.or d.charset
    collation := (constraints.filterMap Constraint.collation?).getLast?.or d.collation }

variable {c : ColumnDefinition} {table : String} {constraints constraints' : List Constraint} {values : List Node}
  {d : ColumnDeclaration}

theorem lastText?_concat (values : List Node) (value : Node) :
    lastText? (values ++ [value]) = if value.isNull then lastText? values else some value.valueText := by
  cases hvalue : value.isNull <;> simp [lastText?, List.filter_append, hvalue]

theorem defaultsOf_concat (constraints : List Constraint) (k : Constraint) :
    defaultsOf (constraints ++ [k]) = defaultsOf constraints ++ k.default?.toList := by
  rw [defaultsOf, List.filterMap_append]
  cases hk : k.default? <;> simp [defaultsOf, hk]

/-- One more constraint adds what it has. -/
theorem applyConstraint_withAttributes (d : ColumnDeclaration) (constraints : List Constraint) (k : Constraint) :
    applyConstraint (withAttributes d constraints) k = withAttributes d (constraints ++ [k]) := by
  cases k with
  | default value =>
      cases hvalue : value.isNull <;>
        simp [applyConstraint, withAttributes, defaultsOf_concat, lastText?_concat, hvalue, Constraint.default?,
          Constraint.comment?, Constraint.charset?, Constraint.collation?]
  | _ =>
      simp [applyConstraint, withAttributes, defaultsOf_concat, Constraint.default?, Constraint.comment?,
        Constraint.charset?, Constraint.collation?]

theorem foldl_applyConstraint (d : ColumnDeclaration) (constraints : List Constraint) :
    constraints.foldl applyConstraint d = withAttributes d constraints := by
  induction constraints using List.reverseRecOn with
  | nil => simp [withAttributes, defaultsOf, lastText?]
  | append_singleton constraints k ih =>
      rw [List.foldl_append, ih, List.foldl_cons, List.foldl_nil, applyConstraint_withAttributes]

/-- What a column of the type declares under a name of the type. -/
def ColumnDefinition.declared (c : ColumnDefinition) (type : DataType) (typeName : String) : ColumnDeclaration :=
  withAttributes { name := c.name, typeName, typeText := type.text, typeParams := type.params } c.constraints

theorem declare_of_type {type : DataType} {typeName : String} (htype : c.type = some type)
    (hname : type.name? = some typeName) : c.declare table = .ok (c.declared type typeName) := by
  simp only [ColumnDefinition.declare, htype, hname, foldl_applyConstraint]
  rfl

theorem exists_type_of_declare {column : ColumnDeclaration} (h : c.declare table = .ok column) :
    ∃ type typeName, c.type = some type ∧ type.name? = some typeName ∧ column = c.declared type typeName := by
  obtain ⟨type, typeName, htype, hname⟩ := declare_succeeds_iff.mp ⟨column, h⟩
  rw [declare_of_type htype hname] at h
  exact ⟨type, typeName, htype, hname, (Except.ok.inj h).symm⟩

/-! ### Types that are left to the user -/

/-- The word that the type of a column is left to the user by. -/
def ColumnDefinition.userWord? (c : ColumnDefinition) : Option String :=
  match c.type with
  | some { head := .userDefined word, .. } => some word
  | _ => none

theorem userWord?_eq_some_iff {word : String} :
    c.userWord? = some word ↔ ∃ type, c.type = some type ∧ type.head = .userDefined word := by
  rw [ColumnDefinition.userWord?]
  split
  case h_1 htype => simp [htype]
  case h_2 hnone =>
      refine iff_of_false (by simp) ?_
      rintro ⟨⟨head, sql, unsigned, params⟩, htype, rfl⟩
      exact hnone _ _ _ _ htype

/-- A type that is left to the user goes by its word in upper case. -/
theorem typeName_of_userWord {word : String} {column : ColumnDeclaration} (hword : c.userWord? = some word)
    (h : c.declare table = .ok column) : column.typeName = Text.upperText word := by
  obtain ⟨type, htype, hhead⟩ := userWord?_eq_some_iff.mp hword
  obtain ⟨found, name, hfound, hname, rfl⟩ := exists_type_of_declare h
  obtain rfl := Option.some.inj (htype.symm.trans hfound)
  rw [DataType.name?, hhead] at hname
  exact (Option.some.inj hname).symm

/-! ### The order of constraints -/

/-- Of the attributes that are texts none is said twice. -/
structure SaysOnce (constraints : List Constraint) : Prop where
  default : (defaultsOf constraints).length ≤ 1
  comment : (constraints.filterMap Constraint.comment?).length ≤ 1
  charset : (constraints.filterMap Constraint.charset?).length ≤ 1
  collation : (constraints.filterMap Constraint.collation?).length ≤ 1

theorem filterMap_eq_of_perm {α β : Type} {f : α → Option β} {s s' : List α} (hperm : s.Perm s')
    (honce : (s.filterMap f).length ≤ 1) : s.filterMap f = s'.filterMap f := by
  have hfound := hperm.filterMap f
  generalize s.filterMap f = found at hfound honce
  match found, honce with
  | [], _ => exact hfound.symm.eq_nil.symm
  | [b], _ => exact (List.perm_singleton.mp hfound.symm).symm

theorem withAttributes_eq_of_perm (hperm : constraints.Perm constraints') (honce : SaysOnce constraints) :
    withAttributes d constraints = withAttributes d constraints' := by
  have hdefault : defaultsOf constraints = defaultsOf constraints' := filterMap_eq_of_perm hperm honce.default
  rw [withAttributes, hdefault, filterMap_eq_of_perm hperm honce.comment, filterMap_eq_of_perm hperm honce.charset,
    filterMap_eq_of_perm hperm honce.collation, hperm.any_eq, hperm.any_eq, hperm.any_eq]
  rfl

/-- A column with other constraints, and the text that goes with them. -/
def ColumnDefinition.withConstraints (c : ColumnDefinition) (constraints : List Constraint) (sql : String) :
    ColumnDefinition :=
  { c with constraints, sql }

/-- What is told where a column cannot be declared depends on its name and type alone, but for the excerpt. -/
theorem message_eq_of_perm (hperm : c.constraints.Perm constraints) (honce : SaysOnce c.constraints)
    (sql table : String) :
    ((c.withConstraints constraints sql).declare table).mapError SqlError.message =
      (c.declare table).mapError SqlError.message := by
  cases hdeclare : c.declare table with
  | ok column =>
      obtain ⟨type, typeName, htype, hname⟩ := declare_succeeds_iff.mp ⟨column, hdeclare⟩
      have hdeclared : (c.withConstraints constraints sql).declared type typeName = c.declared type typeName :=
        (withAttributes_eq_of_perm hperm honce).symm
      rw [← hdeclare, declare_of_type htype hname,
        declare_of_type (c := c.withConstraints constraints sql) htype hname, hdeclared]
  | error e =>
      cases declare_eq_error_iff.mp hdeclare with
      | untyped htype =>
          -- the excerpts show the constraints in their order, and the message has no excerpt
          rw [declare_eq_error_iff.mpr (.untyped (c := c.withConstraints constraints sql) htype)]
          generalize excerpt _ = reordered
          generalize excerpt _ = near
          rfl
      | nameless htype hname =>
          rw [declare_eq_error_iff.mpr (.nameless (c := c.withConstraints constraints sql) htype hname)]
          rfl

/-- The order of constraints does not matter to what a column declares, nor to whether it is a key, where none of
its texts is said twice. A column that cannot be declared fails with the same message, however it is written. -/
theorem declare_eq_of_perm (hperm : c.constraints.Perm constraints) (honce : SaysOnce c.constraints)
    (sql table : String) :
    ((c.withConstraints constraints sql).declare table).mapError SqlError.message =
        (c.declare table).mapError SqlError.message ∧
      (c.withConstraints constraints sql).isPrimaryKey = c.isPrimaryKey ∧
      (c.withConstraints constraints sql).isUnique = c.isUnique :=
  ⟨message_eq_of_perm hperm honce sql table, hperm.any_eq.symm, hperm.any_eq.symm⟩

/-- A text in quotes. -/
def quoted (text : String) : Node := { kind := .literal, name := text, sql := "'" ++ text ++ "'" }

/-- A column with every kind of attribute. -/
def codeColumn : ColumnDefinition :=
  { name := "code"
    type := some { head := .known "INT", sql := "INT" }
    constraints := [.notNull, .default { kind := .literal, name := "7", sql := "7" }, .comment (quoted "order code"),
      .primaryKey, .characterSet { kind := .variable, name := "utf8" }, .notNull, .autoIncrement,
      .collation { kind := .variable, name := "utf8_bin" }, .unique] }

theorem declare_eq_of_perm_code :
    (codeColumn.constraints.Perm codeColumn.constraints.reverse ∧ SaysOnce codeColumn.constraints) ∧
    ((codeColumn.withConstraints codeColumn.constraints.reverse "").declare "orders").mapError SqlError.message =
      .ok { name := "code", typeName := "INT", typeText := "INT", notNull := true, default := some "7",
            autoIncrement := true, comment := some "order code", charset := some "utf8",
            collation := some "utf8_bin" } ∧
    (codeColumn.withConstraints codeColumn.constraints.reverse "").isPrimaryKey = true ∧
    (codeColumn.withConstraints codeColumn.constraints.reverse "").isUnique = true := by
  have hperm : codeColumn.constraints.Perm codeColumn.constraints.reverse := (List.reverse_perm _).symm
  have honce : SaysOnce codeColumn.constraints := ⟨by decide, by decide, by decide, by decide⟩
  obtain ⟨hdeclare, hprimary, hunique⟩ := declare_eq_of_perm hperm honce "" "orders"
  exact ⟨⟨hperm, honce⟩, hdeclare.trans (by decide +kernel), hprimary.trans rfl, hunique.trans rfl⟩

end GormModels.Sql
