import GormModels.Proofs.Json.ReadBack
import GormModels.Proofs.Text.Utf8
import GormModels.Proofs.Web.Request

/-!
# A body for each choice

Every choice can be asked for: the object of its text and of the options that are set is written to a body that
reads as the choice.
-/

namespace GormModels

open Web

/-! ### Members -/

namespace Web

/-- The names under which a body has the options; where there are two of them, the first. -/
def bodyKeys : List String := bodyNames.map (·.headD "")

theorem nodup_bodyKeys : ("sql" :: bodyKeys).Nodup := by
  decide

theorem names_eq_key_cons : ∀ names ∈ bodyNames, names = names.headD "" :: names.drop 1 ∧
    ∀ name ∈ names.drop 1, name ∉ "sql" :: bodyKeys := by
  decide

theorem member?_texted (name : String) (members : List (String × Value)) :
    member? name (Options.texted members) = members.lookup name := by
  induction members with
  | nil => rfl
  | cons m members ih =>
      obtain ⟨first, v⟩ := m
      by_cases hname : first = name
      · subst hname
        simp [member?, Options.texted, Value.same]
      · have hfirst : (Value.text first).same (.text name) = false := by
          rw [Value.same, beq_eq_false_iff_ne]
          exact hname
        rw [member?] at ih ⊢
        rw [Options.texted, List.map_cons, List.find?_cons_of_neg (by simp [hfirst]), List.lookup_cons,
          beq_eq_false_iff_ne.mpr (Ne.symm hname)]
        exact ih

/-- What is given under a first name, the others missing. -/
theorem given?_texted {key : String} {others : List String} {members : List (String × Value)}
    (hothers : ∀ name ∈ others, members.lookup name = none)
    (hplain : ∀ v, members.lookup key = some v → Json.IsPlain v) :
    (given? (key :: others) (Options.texted members)).map (·.2) = members.lookup key := by
  rw [given?, List.findSome?_cons, member?_texted]
  cases hlookup : members.lookup key with
  | none =>
      have hnone : others.findSome? (fun name => (member? name (Options.texted members)).map (name, ·)) = none := by
        rw [List.findSome?_eq_none_iff]
        intro name hname
        rw [member?_texted, hothers name hname, Option.map_none]
      rw [Option.map_none, hnone]
      rfl
  | some v =>
      obtain rfl | ⟨s, rfl⟩ := hplain v hlookup
      · rfl
      · rfl

end Web

namespace Choice

def flag (on : Bool) : Option Flag := if on then some (.bool true) else none

/-- The request that sets what a choice sets. -/
def asked (c : Choice) : CompileRequest :=
  { sql := c.sql, columnPrefixes := c.columnPrefixes, json := flag c.json, tablePrefixes := c.tablePrefixes
    package := c.package, noNull := flag c.noNull, nullStyle := c.nullStyle, withType := flag c.withType
    forceTableName := flag c.withTableName, charset := c.charset, collation := c.collation }

theorem map_value_flag (on : Bool) : (flag on).map Flag.value = flagValue on := by cases on <;> rfl

theorem makes_asked [Validator] (c : Choice) : Makes c.asked c where
  sql := rfl
  options := by
    intro option hoption
    obtain ⟨⟨name, v⟩, hrow, rfl⟩ := List.mem_map.mp (show option ∈ c.table.map Prod.fst from hoption)
    have hasked : (c.asked.table.map Prod.fst).Nodup := by
      change ["column_prefix", "json_tag", "table_prefix", "package", "no_null_type", "null_style", "with_type",
        "force_table_name", "charset", "collation"].Nodup
      decide
    have hrows : ∀ row ∈ c.table, row ∈ c.asked.table := by
      simp [table, asked, CompileRequest.table, map_value_flag]
    have hgiven : c.asked.entries.lookup name = v := Options.lookup_present hasked (hrows _ hrow)
    have hchosen : c.entries.lookup name = v := Options.lookup_present c.nodup_table hrow
    exact .inl (hgiven.trans hchosen.symm)

/-- The options of a body by their names in it. -/
def rows (c : Choice) : List (String × Option Value) := bodyKeys.zip (c.asked.table.map (·.2))

/-- The members of an object that makes a choice. -/
def members (c : Choice) : List (String × Value) := ("sql", .text c.sql) :: Options.present c.rows

theorem map_fst_rows (c : Choice) : c.rows.map Prod.fst = bodyKeys := rfl

theorem nodup_rows (c : Choice) : (c.rows.map Prod.fst).Nodup := (List.nodup_cons.mp nodup_bodyKeys).2

theorem fst_mem_keys (c : Choice) {entry : String × Value} (hentry : entry ∈ c.members) :
    entry.1 ∈ "sql" :: bodyKeys := by
  obtain rfl | hentry := List.mem_cons.mp hentry
  · exact List.mem_cons_self
  · exact List.mem_cons_of_mem _ (Options.fst_mem_of_mem_present hentry)

theorem nodup_members (c : Choice) : (c.members.map Prod.fst).Nodup := by
  refine List.nodup_cons.mpr ⟨fun hmem => ?_, Options.nodup_present c.nodup_rows⟩
  obtain ⟨entry, hentry, heq⟩ := List.mem_map.mp hmem
  have hkey := Options.fst_mem_of_mem_present hentry
  rw [c.map_fst_rows, heq] at hkey
  exact (List.nodup_cons.mp nodup_bodyKeys).1 hkey

/-- What a choice sets is a text or a flag that is on. -/
theorem isPlain_of_mem_asked (c : Choice) {v : Value} (hv : some v ∈ c.asked.table.map (·.2)) : Json.IsPlain v := by
  have htext {o : Option String} (h : some v = o.map .text) : Json.IsPlain v := by
    obtain ⟨s, -, heq⟩ := Option.map_eq_some_iff.mp h.symm
    exact .inr ⟨s, heq.symm⟩
  have hflag {on : Bool} (h : some v = (flag on).map Flag.value) : Json.IsPlain v := by
    cases on
    · cases h
    · exact .inl (Option.some.inj h)
  simp only [asked, CompileRequest.table, List.map_cons, List.map_nil, List.mem_cons, List.not_mem_nil, or_false] at hv
  rcases hv with h | h | h | h | h | h | h | h | h | h
  all_goals first
    | exact htext h
    | exact hflag h

theorem isPlain_members (c : Choice) : ∀ m ∈ c.members, Json.IsPlain m.2 := by
  intro m hm
  obtain rfl | hm := List.mem_cons.mp hm
  · exact .inr ⟨c.sql, rfl⟩
  · exact c.isPlain_of_mem_asked (List.of_mem_zip (Options.mem_present.mp hm)).2

/-- The object of a choice holds the request that sets what it sets. -/
theorem holds_members (c : Choice) : Holds (Options.texted c.members) c.asked where
  sql := by
    rw [member?_texted, members, List.lookup_cons_self]
    rfl
  options := by
    rw [← List.forall₂_eq_eq_eq, List.forall₂_map_left_iff, List.forall₂_iff_zip]
    refine ⟨rfl, fun {names v} hmem => ?_⟩
    obtain ⟨hnames, hothers⟩ := names_eq_key_cons names (List.of_mem_zip hmem).1
    have hrow : (names.headD "", v) ∈ c.rows := by
      rw [rows, bodyKeys, List.zip_map_left]
      exact List.mem_map_of_mem hmem
    have hlookup : c.members.lookup (names.headD "") = v := by
      have hsql : (names.headD "" == "sql") = false := by
        rw [beq_eq_false_iff_ne]
        intro heq
        exact (List.nodup_cons.mp nodup_bodyKeys).1 (heq ▸ (List.of_mem_zip hrow).1)
      rw [members, List.lookup_cons, hsql]
      exact Options.lookup_present c.nodup_rows hrow
    rw [hnames, given?_texted, hlookup]
    · intro name hname
      rw [Attempt.lookup_eq_none_iff, List.mem_map]
      rintro ⟨entry, hentry, rfl⟩
      exact hothers _ hname (c.fst_mem_keys hentry)
    · exact fun w hw => c.isPlain_members _ (Attempt.mem_of_lookup_eq_some hw)

end Choice

/-! ### The body -/

/-- The request that sends the members of a choice. -/
def Choice.request (c : Choice) : Request :=
  { method := "POST", path := "/api/parse", body := Json.write (object c.members) }

section

variable [Text.Halves]

theorem Json.decode?_encode {s : String} {behind : List Char} (hs : s.toList = '\x7b' :: '"' :: behind) :
    Json.decode? (Text.Utf8.encode s) = some s.toList := by
  obtain ⟨more, hmore⟩ : ∃ more, Text.Utf8.encode s = 0x7B :: 0x22 :: more := by
    rw [Text.Utf8.encode_eq, hs]
    exact ⟨_, rfl⟩
  have hutf8 : Json.decode? (0x7B :: 0x22 :: more) = (Text.Utf8.decode (0x7B :: 0x22 :: more)).toOption := by
    match more with
    | [] | [_] | _ :: _ :: _ => rfl
  rw [hmore, hutf8, ← hmore, Text.Utf8.decode_encode]
  rfl

theorem Choice.sends_request (c : Choice) : Sends c.request c.asked where
  method := rfl
  path := rfl
  contentType := rfl
  body := by
    obtain ⟨behind, hbehind⟩ := Json.exists_intercalate_member _ _ ['\x7d']
    exact ⟨_, _, Json.decode?_encode ((Json.toList_write_object c.members).trans (congrArg _ hbehind)),
      Json.read_write_object (List.cons_ne_nil _ _) c.isPlain_members c.nodup_members, c.holds_members⟩

theorem Choice.asks_request [Validator] (c : Choice) : Asks c.request c :=
  ⟨c.asked, c.sends_request, c.makes_asked⟩

end

end GormModels
