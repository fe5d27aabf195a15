import GormModels.Go.Type
import GormModels.Proofs.Attempt

/-!
# The types of fields

There are finitely many types that a field can have, three at most for each entry of the table. What is true of
all of them is told by going through the table.
-/

namespace GormModels.Go

variable {options : Options} {c : Column} {table : Option String}

theorem lookup_of_lookupType_eq_ok {type : GoType} (hlookup : lookupType c table = .ok type) :
    typeTable.lookup (c.typeName, c.unsigned) = some type := by
  unfold lookupType at hlookup
  split at hlookup
  case h_1 htype =>
      cases hlookup
      exact htype
  case h_2 => cases hlookup

/-- The types that a column can get for an entry of the table: plain, as a pointer or in a wrapper. -/
def GoType.resolutions (type : GoType) : List ResolvedType :=
  [⟨type.base, type.plainImports⟩, ⟨"*" ++ type.base, type.plainImports⟩] ++
    type.wrapped.toList.map (⟨·, type.wrapperImports⟩)

theorem mem_resolutions_of_resolveType_eq_ok {resolved : ResolvedType}
    (hresolve : resolveType options c table = .ok resolved) :
    ∃ entry ∈ typeTable, resolved ∈ entry.2.resolutions := by
  simp only [resolveType, Attempt.bind_eq_ok_iff] at hresolve
  obtain ⟨type, hlookup, hresolve⟩ := hresolve
  refine ⟨_, Attempt.mem_of_lookup_eq_some (lookup_of_lookupType_eq_ok hlookup), ?_⟩
  split at hresolve
  case isTrue =>
      cases hresolve
      simp [GoType.resolutions]
  case isFalse =>
      split at hresolve
      case h_1 _ hwrapped =>
          split at hresolve <;> cases hresolve <;> simp [GoType.resolutions, hwrapped]
      case h_2 =>
          cases hresolve
          simp [GoType.resolutions]

/-- What holds of every type that the table gives holds of the type of a column. -/
theorem of_resolutions {p : ResolvedType → Prop} (hp : ∀ entry ∈ typeTable, ∀ resolved ∈ entry.2.resolutions,
    p resolved) {resolved : ResolvedType} (hresolve : resolveType options c table = .ok resolved) :
    p resolved := by
  obtain ⟨entry, hentry, hresolved⟩ := mem_resolutions_of_resolveType_eq_ok hresolve
  exact hp entry hentry resolved hresolved

end GormModels.Go
