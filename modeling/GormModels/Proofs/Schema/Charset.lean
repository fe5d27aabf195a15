import GormModels.Proofs.Alike
import GormModels.Schema.Build

/-!
# Schemas under other character sets

The character set and the collation among the options go into the tables and columns of that name and nowhere
else: whether a table is refused, and for what, does not depend on them.
-/

namespace GormModels

variable {options : Options}

/-- The columns are equal in everything but their character sets and collations. -/
def Column.Recoded (c c' : Column) : Prop := c' = { c with charset := c'.charset, collation := c'.collation }

/-- The tables are equal in everything but the character sets and collations, their own and their columns'. -/
structure Table.Recoded (t t' : Table) : Prop where
  apart : t' = { t with columns := t'.columns, charset := t'.charset, collation := t'.collation }
  columns : List.Forall₂ Column.Recoded t.columns t'.columns

theorem alike_build_column (charset collation tableCharset tableCollation : Option String)
    (context : TableContext) (c : ColumnDeclaration) :
    Alike Column.Recoded (c.build options context)
      (c.build { options with charset, collation }
        { context with charset := tableCharset, collation := tableCollation }) := by
  unfold ColumnDeclaration.build
  dsimp only
  split
  case h_1 => exact .error _
  case h_2 => exact .bind_same _ fun _ => .bind_same _ fun _ => .bind_same _ fun _ => .ok rfl

theorem alike_build_table (charset collation : Option String) (t : TableDeclaration) :
    Alike Table.Recoded (t.build options) (t.build { options with charset, collation }) := by
  unfold TableDeclaration.build
  split
  case h_1 => exact .error _
  case h_2 =>
      refine (Alike.mapM_same _ fun c => ?_).bind fun _ _ hrecoded => .ok ⟨rfl, hrecoded⟩
      exact alike_build_column charset collation _ _ _ c

theorem alike_buildTables (charset collation : Option String) (declarations : List TableDeclaration) :
    Alike (List.Forall₂ Table.Recoded) (buildTables options declarations)
      (buildTables { options with charset, collation } declarations) :=
  .mapM_same _ (alike_build_table charset collation)

end GormModels
