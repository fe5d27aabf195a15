import GormModels.Proofs.Json.ReadBack
import GormModels.Proofs.Web.Request
import GormModels.Web

/-!
# Responses to requests for a choice

The response to a request that makes a choice tells what the choice comes to. It can be sent unless that has
half of a surrogate pair in it: writing leaves such a half as it is, and brings in none.
-/

namespace GormModels

open Text Web

/-! ### What is told -/

/-- The response that tells something. -/
def Told.response : Told → Except Web.Failure Response
  | source code => .ok ⟨200, .data (object [("code", .text code)])⟩
  | failure report => .ok ⟨400, .data (reportValue report)⟩
  | nothing e => .error (.unreported e)

theorem Web.answer_of_makes [Sql.Dialect] [Naming.Inflection] [Validator] {t : CompileRequest} {c : Choice}
    (h : Makes t c) : answer t = c.told.response := by
  rw [answer, Choice.told, ofEntries_of_makes h, h.sql]
  cases Options.ofEntries c.entries with
  | error e => rfl
  | ok options =>
      dsimp only
      cases compile options c.sql with
      | ok code => rfl
      | error e =>
          dsimp only [Told.ofCompiled]
          cases e.report? <;> rfl

/-- All texts in what is told. -/
def Told.texts : Told → List String
  | source code => [code]
  | failure report =>
    report.message :: report.code.toList ++ report.contextTexts.flatMap fun (name, s) => [name, s]
  | nothing _ => []

theorem hasOddNumber_object_texts (members : List (String × String)) :
    hasOddNumber (object (members.map fun (name, s) => (name, .text s))) = false := by
  rw [object, hasOddNumber]
  induction members with
  | nil => rfl
  | cons member members ih => exact ih

theorem hasOddNumber_reportValue (r : Report) : hasOddNumber (reportValue r) = false := by
  have hcontext := hasOddNumber_object_texts r.contextTexts
  have hcode : hasOddNumber (r.code.elim .null .text) = false := by cases r.code <;> rfl
  change (false || (hasOddNumber (r.code.elim .null .text) || (hasOddNumber (object
    (r.contextTexts.map fun (name, s) => (name, .text s))) || false))) = false
  rw [hcode, hcontext]
  rfl

section

variable [Halves]

/-! ### Lone halves in what is written -/

theorem isLoneHalf_of_lt {c : Char} (hc : c.toNat < 128) : isLoneHalf c = false := by
  rw [isLoneHalf, Option.isSome_eq_false_iff, Option.isNone_iff_eq_none]
  by_contra hsome
  obtain ⟨unit, hunit⟩ := Option.ne_none_iff_exists'.mp hsome
  have hprivate := Halves.isPrivate_of_char? ((Halves.half?_eq_some_iff c unit).mp hunit)
  simp only [isPrivate, Bool.or_eq_true, Bool.and_eq_true, decide_eq_true_eq] at hprivate
  omega

theorem any_isLoneHalf_ascii {cs : List Char} (hcs : ∀ n ∈ cs.map Char.toNat, n < 128) :
    cs.any isLoneHalf = false := by
  rw [List.any_eq_false]
  intro c hc
  rw [isLoneHalf_of_lt (hcs _ (List.mem_map_of_mem hc))]
  exact Bool.false_ne_true

theorem hasLoneHalf_ascii {s : String} (hs : ∀ n ∈ s.toList.map Char.toNat, n < 128) : hasLoneHalf s = false :=
  any_isLoneHalf_ascii hs

namespace Json

/-- An escape is ASCII, and so is the character that it stands for. -/
theorem any_escape (c : Char) : (escape c).any isLoneHalf = isLoneHalf c := by
  have hdigits : ∀ n < 16, (Nat.digitChar n).toNat < 128 := by decide
  unfold escape
  split
  case h_8 =>
      split
      case isTrue hcontrol =>
          have hhigh := isLoneHalf_of_lt (hdigits (c.toNat / 16) (by omega))
          have hlow := isLoneHalf_of_lt (hdigits (c.toNat % 16) (by omega))
          have hstart : ['\\', 'u', '0', '0'].any isLoneHalf = false := any_isLoneHalf_ascii (by decide)
          have hself : isLoneHalf c = false := isLoneHalf_of_lt (by omega)
          simp only [List.any_cons, List.any_nil, Bool.or_eq_false_iff] at hstart
          simp only [List.any_cons, List.any_nil, hstart, hhigh, hlow, hself, Bool.or_false]
      case isFalse => simp
  all_goals rw [isLoneHalf_of_lt (by decide), any_isLoneHalf_ascii (by decide)]

theorem hasLoneHalf_quote (s : String) : hasLoneHalf (quote s) = hasLoneHalf s := by
  have hmark : isLoneHalf '"' = false := isLoneHalf_of_lt (by decide)
  simp [hasLoneHalf, quote, hmark, List.any_flatMap, any_escape]

theorem hasLoneHalf_write_object (members : List (String × Value)) :
    hasLoneHalf (write (object members)) = members.any fun m => hasLoneHalf m.1 || hasLoneHalf (write m.2) := by
  have hsigns : isLoneHalf ':' = false ∧ isLoneHalf '\x7b' = false ∧ isLoneHalf '\x7d' = false ∧
      isLoneHalf ',' = false :=
    ⟨isLoneHalf_of_lt (by decide), isLoneHalf_of_lt (by decide), isLoneHalf_of_lt (by decide),
      isLoneHalf_of_lt (by decide)⟩
  have hmember (m : String × Value) : (member m).any isLoneHalf = (hasLoneHalf m.1 || hasLoneHalf (write m.2)) := by
    rw [← hasLoneHalf_quote, member, List.any_append, List.any_cons, hsigns.1, Bool.false_or, hasLoneHalf, hasLoneHalf]
  rw [hasLoneHalf, toList_write_object, List.any_cons, List.any_append, any_intercalate (by simp [hsigns]),
    List.any_map]
  simp [hsigns, hmember, Function.comp_def]

end Json

/-! ### Responses -/

/-- Whether there is half of a surrogate pair in what is told. -/
def Told.halved (told : Told) : Bool := told.texts.any hasLoneHalf

/-- What comes of sending the response that tells something. -/
def Told.sent (told : Told) : Except Web.Failure Response :=
  if told.halved then .error .loneHalf else told.response

section

variable {told : Told}

theorem Told.sent_eq_ok_iff {response : Response} :
    told.sent = .ok response ↔ told.halved = false ∧ told.response = .ok response := by
  rw [sent]
  cases told.halved <;> simp

theorem Told.sent_source_iff (code : String) :
    told.sent = .ok ⟨200, .data (object [("code", .text code)])⟩ ↔ told.halved = false ∧ told = .source code := by
  rw [sent_eq_ok_iff]
  refine and_congr_right fun _ => ?_
  cases told with
  | source found | failure report | nothing e => simp [response, object]

theorem Told.sent_failure_iff : (∃ response, told.sent = .ok response ∧ response.status = 400) ↔
    told.halved = false ∧ ∃ report, told = .failure report := by
  simp only [sent_eq_ok_iff, and_assoc, exists_and_left]
  refine and_congr_right fun _ => ?_
  cases told with
  | source found | failure report | nothing e => simp [response]

end

theorem hasLoneHalf_write_reportValue (r : Report) :
    hasLoneHalf (Json.write (reportValue r)) = (Told.failure r).halved := by
  have hcode : hasLoneHalf (Json.write (r.code.elim .null .text)) = r.code.toList.any hasLoneHalf := by
    cases r.code with
    | none => exact hasLoneHalf_ascii (by decide)
    | some code => simp [Json.write, Json.hasLoneHalf_quote]
  have hnames : hasLoneHalf "error" = false ∧ hasLoneHalf "error_code" = false ∧ hasLoneHalf "context" = false :=
    ⟨hasLoneHalf_ascii (by decide), hasLoneHalf_ascii (by decide), hasLoneHalf_ascii (by decide)⟩
  simp only [reportValue, Json.hasLoneHalf_write_object, List.any_cons, List.any_nil, hnames, Json.write,
    Json.hasLoneHalf_quote, hcode, Bool.false_or, Bool.or_false, List.any_map, Told.halved, Told.texts,
    List.cons_append, List.any_append, List.any_flatMap, Function.comp_def]

variable [Framework] [LawfulFramework]

theorem Told.response_send (told : Told) : (told.response >>= Framework.send) = told.sent := by
  rw [sent]
  cases told with
  | source code =>
      have hwritten : hasLoneHalf (Json.write (object [("code", .text code)])) = (source code).halved := by
        have hname : hasLoneHalf "code" = false := hasLoneHalf_ascii (by decide)
        simp only [Json.hasLoneHalf_write_object, List.any_cons, List.any_nil, hname, Json.write,
          Json.hasLoneHalf_quote, halved, texts, Bool.false_or]
      rw [response, Attempt.ok_bind, LawfulFramework.send_data 200 rfl, hwritten]
  | failure report =>
      rw [response, Attempt.ok_bind, LawfulFramework.send_data 400 (hasOddNumber_reportValue report),
        hasLoneHalf_write_reportValue]
  | nothing e => rfl

theorem Web.respond_of_asks [Sql.Dialect] [Naming.Inflection] [Validator] {r : Request} {c : Choice} (h : Asks r c) :
    respond r = c.told.sent := by
  obtain ⟨t, hsends, hmakes⟩ := h
  rw [respond, LawfulFramework.receive_of_sends hsends, ← c.told.response_send, ← answer_of_makes hmakes]

end

end GormModels
