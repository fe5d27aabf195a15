import GormModels.Sql.Script
import GormModels.Proofs.Attempt

/-!
# Columns and their declarations

A table is declared with its columns in their order. That fails only at a column: at its first one that has no type,
or one without a name.
-/

namespace GormModels.Sql

variable {c : ColumnDefinition} {t t' : TableDeclaration} {table : String} {e : SqlError}

/-- The column's type has a name. -/
def Typed (c : ColumnDefinition) : Prop := ∃ type name, c.type = some type ∧ type.name? = some name

/-- Why a column cannot be declared. -/
inductive ColumnFault (table : String) (c : ColumnDefinition) : SqlError → Prop
  | untyped (htype : c.type = none) :
      ColumnFault table c (.untypedColumn c.name table (excerpt c.sql.toList))
  | nameless {type : DataType} (htype : c.type = some type) (hname : type.name? = none) :
      ColumnFault table c (.namelessType c.name table)

theorem name?_eq_none_iff {type : DataType} : type.name? = none ↔ type.head = .nameless := by
  rw [DataType.name?]
  cases type.head <;> simp

theorem declare_eq_error_iff : c.declare table = .error e ↔ ColumnFault table c e := by
  rw [ColumnDefinition.declare]
  constructor
  · intro h
    split at h
    case h_1 htype =>
        cases h
        exact .untyped htype
    case h_2 type htype =>
        split at h
        case h_1 hname =>
            cases h
            exact .nameless htype hname
        case h_2 => cases h
  · rintro (htype | ⟨htype, hname⟩)
    · rw [htype]
    · simp only [htype, hname]

theorem declare_succeeds_iff : (∃ d, c.declare table = .ok d) ↔ Typed c := by
  rw [ColumnDefinition.declare, Typed]
  cases htype : c.type with
  | none => simp
  | some type => cases hname : type.name? <;> simp [hname]

theorem declareItem_eq_error_iff {item : TableItem} :
    declareItem t item = .error e ↔ ∃ c, item = .column c ∧ ColumnFault t.name c e := by
  cases item with
  | column c =>
      rw [declareItem, Attempt.bind_eq_error_iff, declare_eq_error_iff]
      simp [pure, Except.pure]
  | constraints label ks => simp [declareItem, pure, Except.pure]

/-- Constraints of a table change neither its name nor its columns. -/
theorem foldl_applyTableConstraint (label : Option String) (constraints : List TableConstraint)
    (t : TableDeclaration) :
    (constraints.foldl (applyTableConstraint label) t).name = t.name ∧
      (constraints.foldl (applyTableConstraint label) t).columns = t.columns := by
  induction constraints generalizing t with
  | nil => exact ⟨rfl, rfl⟩
  | cons k constraints ih =>
      have hstep : (applyTableConstraint label t k).name = t.name ∧
          (applyTableConstraint label t k).columns = t.columns := by
        rw [applyTableConstraint.eq_def]
        repeat' split
        all_goals exact ⟨rfl, rfl⟩
      obtain ⟨hname, hcolumns⟩ := ih (applyTableConstraint label t k)
      exact ⟨hname.trans hstep.1, hcolumns.trans hstep.2⟩

theorem name_of_declareItem {item : TableItem} (h : declareItem t item = .ok t') : t'.name = t.name := by
  cases item with
  | column c =>
      rw [declareItem, Attempt.bind_eq_ok_iff] at h
      obtain ⟨column, -, h⟩ := h
      cases h
      rfl
  | constraints label ks =>
      cases h
      exact (foldl_applyTableConstraint _ ks t).1

theorem typed_of_declareItem (h : declareItem t (.column c) = .ok t') : Typed c := by
  rw [declareItem, Attempt.bind_eq_ok_iff] at h
  obtain ⟨column, hcolumn, -⟩ := h
  exact declare_succeeds_iff.mp ⟨column, hcolumn⟩

/-- What follows an item is declared under the same name of the table. -/
theorem foldlM_cons_eq_error_iff {item : TableItem} {items : List TableItem} :
    (item :: items).foldlM declareItem t = .error e ↔ declareItem t item = .error e ∨
      ∃ t', declareItem t item = .ok t' ∧ t'.name = t.name ∧ items.foldlM declareItem t' = .error e := by
  rw [List.foldlM_cons, Attempt.bind_eq_error_iff]
  refine or_congr_right (exists_congr fun t' => and_congr_right fun hitem => ?_)
  rw [name_of_declareItem hitem]
  simp

/-- An item is declared unless it is a column without a type that has a name. -/
theorem declareItem_succeeds_iff {item : TableItem} :
    (∃ t', declareItem t item = .ok t') ↔ ∀ c, item = .column c → Typed c := by
  cases item with
  | column c =>
      constructor
      · rintro ⟨t', hitem⟩ _ ⟨⟩
        exact typed_of_declareItem hitem
      · intro htyped
        obtain ⟨column, hcolumn⟩ := (declare_succeeds_iff (c := c)).mpr (htyped c rfl)
        rw [declareItem, hcolumn]
        exact ⟨_, rfl⟩
  | constraints label ks =>
      constructor
      · rintro - c ⟨⟩
      · intro
        exact ⟨_, rfl⟩

/-- The items are declared up to the first column that cannot be. -/
theorem foldlM_declareItem_eq_error_iff {items : List TableItem} :
    items.foldlM declareItem t = .error e ↔ ∃ before c after, items = before ++ .column c :: after ∧
      (∀ b, .column b ∈ before → Typed b) ∧ ColumnFault t.name c e := by
  induction items generalizing t with
  | nil => simp [pure, Except.pure]
  | cons item items ih =>
      rw [foldlM_cons_eq_error_iff]
      constructor
      · rintro (hitem | ⟨t', hitem, hname, hlater⟩)
        · obtain ⟨c, rfl, hfault⟩ := declareItem_eq_error_iff.mp hitem
          exact ⟨[], c, items, rfl, by simp, hfault⟩
        · obtain ⟨before, c, after, rfl, hbefore, hfault⟩ := ih.mp hlater
          refine ⟨item :: before, c, after, rfl, ?_, hname ▸ hfault⟩
          rintro b (_ | ⟨_, hb⟩)
          · exact typed_of_declareItem hitem
          · exact hbefore b hb
      · rintro ⟨before, c, after, hsplit, hbefore, hfault⟩
        cases before with
        | nil =>
            obtain ⟨rfl, rfl⟩ := List.cons.inj hsplit
            exact .inl (declareItem_eq_error_iff.mpr ⟨c, rfl, hfault⟩)
        | cons first before =>
            obtain ⟨rfl, rfl⟩ := List.cons.inj hsplit
            obtain ⟨t', hitem⟩ := declareItem_succeeds_iff (t := t).mpr fun b hb =>
              hbefore b (hb ▸ List.mem_cons_self)
            have hname := name_of_declareItem hitem
            refine .inr ⟨t', hitem, hname, ih.mpr ⟨before, c, after, rfl, ?_, hname ▸ hfault⟩⟩
            exact fun b hb => hbefore b (List.mem_cons_of_mem _ hb)

/-- A table is declared unless one of its columns cannot be, and the first of these is told. -/
theorem declare_definition_eq_error_iff {d : TableDefinition} :
    d.declare = .error e ↔ ∃ before c after, d.items = before ++ .column c :: after ∧
      (∀ b, .column b ∈ before → Typed b) ∧ ColumnFault d.name c e := by
  rw [TableDefinition.declare, Attempt.bind_eq_error_iff, foldlM_declareItem_eq_error_iff]
  simp [pure, Except.pure]

/-- A column without a type is reported as an error of SQL. -/
theorem ColumnFault.report (h : ColumnFault table c e) :
    (∃ r, e.report? = some r ∧ r.kind = .sql) ∨ ∃ column table, e = .namelessType column table := by
  cases h with
  | untyped htype => exact .inl ⟨_, rfl, rfl⟩
  | nameless htype hname => exact .inr ⟨_, _, rfl⟩

/-! ### The columns of a table -/

/-- The columns among the items of a table. -/
def columnsOf (items : List TableItem) : List ColumnDefinition :=
  items.filterMap fun
    | .column c => some c
    | .constraints .. => none

theorem columns_of_declareItem {t t' : TableDeclaration} {item : TableItem} (h : declareItem t item = .ok t') :
    ∃ columns, t'.columns = t.columns ++ columns ∧
      List.Forall₂ (fun c column => c.declare t.name = .ok column) (columnsOf [item]) columns := by
  cases item with
  | column c =>
      rw [declareItem, Attempt.bind_eq_ok_iff] at h
      obtain ⟨column, hcolumn, h⟩ := h
      cases h
      exact ⟨[column], rfl, .cons hcolumn .nil⟩
  | constraints label ks =>
      cases h
      exact ⟨[], (foldl_applyTableConstraint _ ks t).2.trans (List.append_nil _).symm, .nil⟩

theorem columns_of_foldlM {t t' : TableDeclaration} {items : List TableItem}
    (h : items.foldlM declareItem t = .ok t') :
    ∃ columns, t'.columns = t.columns ++ columns ∧
      List.Forall₂ (fun c column => c.declare t.name = .ok column) (columnsOf items) columns := by
  induction items generalizing t with
  | nil =>
      cases h
      exact ⟨[], (List.append_nil _).symm, .nil⟩
  | cons item items ih =>
      rw [List.foldlM_cons, Attempt.bind_eq_ok_iff] at h
      obtain ⟨next, hitem, hrest⟩ := h
      obtain ⟨first, hfirst, hdeclared⟩ := columns_of_declareItem hitem
      obtain ⟨more, hmore, hothers⟩ := ih hrest
      rw [name_of_declareItem hitem] at hothers
      refine ⟨first ++ more, by rw [hmore, hfirst, List.append_assoc], ?_⟩
      have hsplit : columnsOf (item :: items) = columnsOf [item] ++ columnsOf items := by
        rw [columnsOf, columnsOf, columnsOf, ← List.filterMap_append, List.singleton_append]
      rw [hsplit]
      exact List.rel_append hdeclared hothers

theorem columns_applyOption (t : TableDeclaration) (o : TableOption) : (applyOption t o).columns = t.columns := by
  cases o <;> rfl

/-- A table is declared with its columns in their order. -/
theorem columns_of_declare {d : TableDefinition} {t : TableDeclaration} (h : d.declare = .ok t) :
    List.Forall₂ (fun c column => c.declare d.name = .ok column) (columnsOf d.items) t.columns := by
  rw [TableDefinition.declare, Attempt.bind_eq_ok_iff] at h
  obtain ⟨bare, hbare, h⟩ := h
  cases h
  have hoptions : ∀ (options : List TableOption) (t : TableDeclaration),
      (options.foldl applyOption t).columns = t.columns := by
    intro options
    induction options with
    | nil => exact fun t => rfl
    | cons o options ih => exact fun t => (ih _).trans (columns_applyOption t o)
  obtain ⟨columns, hcolumns, hdeclared⟩ := columns_of_foldlM hbare
  rw [hoptions, hcolumns]
  exact hdeclared

end GormModels.Sql
