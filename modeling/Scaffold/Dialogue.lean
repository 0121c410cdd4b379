/-
# Scaffold.Dialogue -- questions and answers, one at a time

A dialogue stands at a point, has one question there, and moves on with each answer: to another
point, back to the same question because the answer was refused, or to its result. `run` feeds it
a list of answers and returns what came of it, the log of everything that was said, and the
answers nobody asked for. It is a recursion on the answers, so every run ends.

Refusals and announcements reach the log only while the dialogue reports. Whether it reports
changes nothing else: `run_silent` says that the silent log is the reporting log with all but the
questions left out.
-/

import Scaffold.Answer

namespace Scaffold

/-! ## The log -/

/-- One thing that was said. -/
inductive Saying where
  /-- A question was put. -/
  | asked (question : Text)
  /-- The answer was refused. -/
  | refused (why : Rejection)
  /-- Something was announced. -/
  | announced (text : Text)
  deriving DecidableEq, Repr

/-- Whether a saying is a question. -/
def Saying.isQuestion : Saying → Bool
  | asked _ => true
  | _ => false

/-! ## Dialogues -/

/-- What an answer leads to. -/
inductive Move (σ ρ : Type) where
  /-- On to another point, with announcements on the way. -/
  | next (point : σ) (announcements : List Text)
  /-- The same question again. -/
  | again (why : Rejection)
  /-- The end, with a result. -/
  | done (result : ρ)

/-- A dialogue with points `σ` and results `ρ`. -/
structure Dialogue (σ ρ : Type) where
  /-- The question at a point. -/
  question : σ → Text
  /-- Where an answer leads from a point. -/
  answer : σ → Answer → Move σ ρ

/-- What came of feeding answers to a dialogue. -/
structure Transcript (ρ : Type) where
  /-- The result, or nothing where the answers ran out first. -/
  result : Option ρ
  /-- Everything that was said, in order. -/
  log : List Saying
  /-- The answers that were not asked for. -/
  unused : List Answer
  deriving DecidableEq, Repr

namespace Transcript

variable {ρ : Type}

/-- The transcript with more said before it. -/
def after (said : List Saying) (t : Transcript ρ) : Transcript ρ :=
  { t with log := said ++ t.log }

end Transcript

namespace Dialogue

variable {σ ρ : Type}

/-- The sayings that reach the log: the questions, and the others only while reporting. -/
def heard (reporting : Bool) (said : List Saying) : List Saying :=
  if reporting then said else said.filter Saying.isQuestion

/-- Feeds answers to a dialogue from a point on. -/
def run (d : Dialogue σ ρ) (reporting : Bool) (point : σ) : List Answer → Transcript ρ
  | [] => ⟨none, [.asked (d.question point)], []⟩
  | a :: answers =>
    match d.answer point a with
    | .done result => ⟨some result, [.asked (d.question point)], answers⟩
    | .again why =>
      (run d reporting point answers).after
        (heard reporting [.asked (d.question point), .refused why])
    | .next point' announcements =>
      (run d reporting point' answers).after
        (heard reporting (.asked (d.question point) :: announcements.map .announced))

/-- A question that is put until its answer can be read. -/
def untilRead (question : Text) (read : Answer → Except Rejection ρ) : Dialogue Unit ρ where
  question _ := question
  answer _ a :=
    match read a with
    | .ok result => .done result
    | .error why => .again why

theorem heard_true (said : List Saying) : heard true said = said := rfl

/-- Reporting adds refusals and announcements to the log and changes nothing else. -/
theorem run_silent (d : Dialogue σ ρ) (point : σ) (answers : List Answer) :
    d.run false point answers =
      { d.run true point answers with
        log := (d.run true point answers).log.filter Saying.isQuestion } := by
  induction answers generalizing point with
  | nil => simp [run, List.filter_cons, Saying.isQuestion]
  | cons a answers ih =>
    simp only [run]
    split
    · simp [List.filter_cons, Saying.isQuestion]
    · rw [ih]; simp [Transcript.after, heard, List.filter_cons, Saying.isQuestion]
    · rw [ih]; simp [Transcript.after, heard, List.filter_cons, Saying.isQuestion]

end Dialogue

end Scaffold
