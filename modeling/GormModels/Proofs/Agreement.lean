import Mathlib
import GormModels.Proofs.Cli.Run
import GormModels.Proofs.Web.Body
import GormModels.Proofs.Web.Response
import GormModels.Proofs.Web.Routing

/-!
# The interfaces agree

A request and a command line for one choice come to the same: what one tells in its response the other tells in
its output and its exit status. They part where one of them has no bytes for what is told and the other does.
-/

namespace GormModels

open Cli Web

/-- A response and a run tell the same Go source, or both tell of a failure. -/
structure Agree (answer : Except Web.Failure Response) (r : Run) : Prop where
  source : ∀ code, answer = .ok ⟨200, .data (object [("code", .text code)])⟩ ↔ r.status = .ok 0 ∧ r.output = code
  failure : (∃ response, answer = .ok response ∧ response.status = 400) ↔ r.status = .ok 1

/-- What is told can be told by a response and by a run, or else by neither of them. A run logs its failure, which
it can always do. -/
def Told.Carried [Text.Halves] (prints : Char → Bool) (told : Told) : Prop :=
  match told with
  | .source code => code.toList.all prints = true ↔ told.halved = false
  | _ => told.halved = false

instance [Text.Halves] (prints : Char → Bool) (told : Told) : Decidable (told.Carried prints) :=
  match told with
  | .source code => inferInstanceAs (Decidable (code.toList.all prints = true ↔ (Told.source code).halved = false))
  | .failure report => inferInstanceAs (Decidable ((Told.failure report).halved = false))
  | .nothing e => inferInstanceAs (Decidable ((Told.nothing e).halved = false))

section

variable [Text.Halves] {prints : Char → Bool} {told : Told} {r : Run}

theorem Told.agree_iff_carried (h : Shows prints r told) : Agree told.sent r ↔ told.Carried prints := by
  have hagree : Agree told.sent r ↔
      (∀ code, told = .source code → (told.halved = false ↔ code.toList.all prints = true)) ∧
        ((∃ report, told = .failure report) → told.halved = false) := by
    constructor
    · intro hagree
      refine ⟨fun code hcode => ?_, fun hreport => ?_⟩
      · have hsource := hagree.source code
        rw [sent_source_iff, h.succeeds_iff] at hsource
        simpa only [hcode, and_true, true_and] using hsource
      · exact (sent_failure_iff.mp (hagree.failure.mpr (h.fails_iff.mpr hreport))).1
    · rintro ⟨hsource, hfailure⟩
      refine ⟨fun code => ?_, ?_⟩
      · rw [sent_source_iff, h.succeeds_iff, and_comm]
        exact and_congr_right (hsource code)
      · rw [sent_failure_iff, h.fails_iff]
        exact and_iff_right_of_imp hfailure
  rw [hagree]
  cases told with
  | source code => simp [Carried, iff_comm]
  | failure report => simp [Carried]
  | nothing e => simp [Carried, halved, texts]

end

/-- A choice of a package name that has to start with a letter. -/
def Choice.misnamed : Choice := { sql := "CREATE TABLE t (a INT)", filled := by decide, package := some "1" }

/-- A choice of half of a surrogate pair as the package name. -/
def Choice.halved : Choice :=
  { sql := "CREATE TABLE t (a INT)", filled := by decide, package := (Text.ofUnit? 0xDC80).map fun c => .ofList [c] }

/-- A request for it, which writes the half by an escape. -/
def Choice.halvedRequest : Request :=
  { method := "POST", path := "/api/parse"
    body := "\x7b\"sql\": \"CREATE TABLE t (a INT)\", \"package\": \"\\udc80\"\x7d" }

theorem sends_halvedRequest : Sends Choice.halvedRequest Choice.halved.asked where
  method := rfl
  path := rfl
  contentType := rfl
  body := by
    have hread : Json.read Choice.halvedRequest.body.toList = .ok (.map (Options.texted Choice.halved.members)) := by
      cbv
    exact ⟨_, _, Json.decode?_encode rfl, hread, Choice.halved.holds_members⟩

end GormModels
