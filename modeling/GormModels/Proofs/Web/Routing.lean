import GormModels.Proofs.Attempt
import GormModels.Proofs.Text.Utf8
import GormModels.Proofs.Web.Framework
import GormModels.Web.Routing

/-!
# Routing keeps to what frameworks do

A request for Go source goes to its path by its method, and its body is read field by field.
-/

namespace GormModels.Web

variable {members : List (Value × Value)} {names : List String} {t : CompileRequest}

/-! ### Fields -/

theorem readField_of_given {α : Type} {read : List Value → Value → Except (List Defect) α} {value : α → Value}
    (hread : ∀ place a, read place (value a) = .ok a) {o : Option α}
    (hgiven : (given? names members).map (·.2) = o.map value) (place : List Value) :
    readField read place members names = .ok o := by
  unfold readField
  cases o with
  | none =>
      rw [Option.map_none, Option.map_eq_none_iff] at hgiven
      rw [hgiven]
  | some a =>
      rw [Option.map_some, Option.map_eq_some_iff] at hgiven
      obtain ⟨⟨name, v⟩, hfound, rfl⟩ := hgiven
      rw [hfound]
      exact congrArg (some <$> ·) (hread _ a)

theorem readText_text (place : List Value) (s : String) : readText place (.text s) = .ok s := rfl

theorem readFlag_value (place : List Value) (flag : Flag) : readFlag place flag.value = .ok flag := by
  cases flag <;> rfl

theorem ofValue_of_holds (h : Holds members t) (place : List Value) :
    CompileRequest.ofValue place (.map members) = .ok t := by
  have hoptions := h.options
  simp only [bodyNames, CompileRequest.table, List.map_cons, List.map_nil, List.cons.injEq, and_true] at hoptions
  obtain ⟨hcolumns, hjson, htables, hpackage, hnoNull, hstyle, htype, hname, hcharset, hcollation⟩ := hoptions
  simp only [CompileRequest.ofValue, h.sql, readText_text, readField_of_given readText_text hcolumns,
    readField_of_given readFlag_value hjson, readField_of_given readText_text htables,
    readField_of_given readText_text hpackage, readField_of_given readFlag_value hnoNull,
    readField_of_given readText_text hstyle, readField_of_given readFlag_value htype,
    readField_of_given readFlag_value hname, readField_of_given readText_text hcharset,
    readField_of_given readText_text hcollation, part]

/-! ### Requests and responses -/

section

variable [Text.Halves] {r : Request}

theorem decode?_encode_empty : Json.decode? (Text.Utf8.encode "") = some [] := by
  have hempty : Text.Utf8.encode "" = [] := by
    rw [Text.Utf8.encode_eq]
    rfl
  have hutf8 : Json.decode? [] = (Text.Utf8.decode []).toOption := rfl
  rw [hempty, hutf8, ← hempty, Text.Utf8.decode_encode]
  rfl

theorem bodyValue_of_read {body : String} {s : List Char} {v : Value}
    (hdecode : Json.decode? (Text.Utf8.encode body) = some s) (hread : Json.read s = .ok v) :
    bodyValue "application/json" body = .ok v := by
  have hne : body ≠ "" := by
    rintro rfl
    rw [decode?_encode_empty] at hdecode
    cases hdecode
    cases hread
  have htype : isJsonType "application/json" = true := by decide
  simp only [bodyValue, beq_eq_false_iff_ne.mpr hne, htype, hdecode, hread]
  rfl

theorem readBody_of_sends (h : Sends r t) : readBody r = .ok t := by
  obtain ⟨s, members, hdecode, hread, hholds⟩ := h.body
  rw [readBody, h.contentType, bodyValue_of_read hdecode hread, Attempt.ok_bind, ofValue_of_holds hholds]
  rfl

theorem call_of_sends (h : Sends r t) : r.call = .compile t := by
  have hroute : route "/api/parse" = "/api/parse" := by decide +kernel
  have hmethod : upper "POST" = "POST" := by decide
  rw [Request.call, h.path, hroute]
  simp only [h.method, hmethod, readBody_of_sends h]
  rfl

theorem checked_data (status : Nat) {v : Value} (hnumbers : hasOddNumber v = false) :
    Response.checked ⟨status, .data v⟩ =
      if hasLoneHalf (Json.write v) then .error .loneHalf else .ok ⟨status, .data v⟩ := by
  simp [Response.checked, hnumbers, hasLoneHalf, String.any, String.contains_bool_eq]

instance : LawfulFramework where
  receive_of_sends := call_of_sends
  send_data := checked_data

end

end GormModels.Web
