/-
# Scaffold.Proofs.Dialogue.Walk -- the ways of a dialogue through its answers

`Dialogue.run` takes answers until the dialogue has its result or no answer is left. `Walk` is the
same as a relation without an end in sight: some answers lead from a point to another point, or to
the result, and that much is said on the way. Walks are put together (`Walk.append`) and taken apart
(`Walk.split`) where the answers are, and a run is a walk followed by the run from where it arrives
(`run_of_walk`).

Every run is a walk to the end of the answers or a walk to a result that uses a beginning of them
(`walk_or_result`). So a dialogue reads its answers like a code without end marks
(`selfDelimiting_run`): what it has used decides by itself where it stops, nothing behind that is
looked at, and no shorter beginning is enough.

Many questions are put again until their answer can be read. `AskedUntilRead` is what is answered
and said at such a question, and `walk_result_of_reads` cuts it off the front of a walk.
-/

import Scaffold.Dialogue

namespace Scaffold

/-- Where answers lead to: to a point of the dialogue, or to its result. -/
inductive Arrival (σ ρ : Type) where
  | point (p : σ)
  | result (r : ρ)

/-- A run uses up a beginning of its answers. Either it lacks a result and has no answer left, or it
has used some of the answers and left the rest. The used ones give the same result and the same log
whatever follows them, and leave all of that; and every shorter beginning of them lacks a result. -/
def SelfDelimiting {ρ : Type} (run : List Answer → Transcript ρ) : Prop :=
  ∀ answers,
    ((run answers).result = none ∧ (run answers).unused = []) ∨
    ∃ used r, answers = used ++ (run answers).unused ∧ (run answers).result = some r ∧
      (∀ more, run (used ++ more) = ⟨some r, (run answers).log, more⟩) ∧
      ∀ short, short <+: used → short ≠ used →
        (run short).result = none ∧ (run short).unused = []

namespace Dialogue

variable {σ ρ : Type} {d : Dialogue σ ρ}

/-! ## Walks -/

/-- The answers lead from a point to there, and that is said meanwhile. -/
inductive Walk (d : Dialogue σ ρ) : σ → List Answer → List Saying → Arrival σ ρ → Prop
  | stay (p : σ) : Walk d p [] [] (.point p)
  | done {p : σ} {a : Answer} {r : ρ} (hanswer : d.answer p a = .done r) :
      Walk d p [a] [.asked (d.question p)] (.result r)
  | again {p : σ} {a : Answer} {why : Rejection} {answers : List Answer} {said : List Saying}
      {e : Arrival σ ρ} (hanswer : d.answer p a = .again why) (hrest : Walk d p answers said e) :
      Walk d p (a :: answers) (.asked (d.question p) :: .refused why :: said) e
  | next {p p' : σ} {a : Answer} {announcements : List Text} {answers : List Answer}
      {said : List Saying} {e : Arrival σ ρ} (hanswer : d.answer p a = .next p' announcements)
      (hrest : Walk d p' answers said e) :
      Walk d p (a :: answers) (.asked (d.question p) :: announcements.map .announced ++ said) e

/-- What comes of more answers from there on. -/
def runFrom (d : Dialogue σ ρ) : Arrival σ ρ → List Answer → Transcript ρ
  | .point p, answers => d.run true p answers
  | .result r, answers => ⟨some r, [], answers⟩

theorem Walk.append {p q : σ} {answers more : List Answer} {said saidLater : List Saying}
    {e : Arrival σ ρ} (h : Walk d p answers said (.point q)) (hmore : Walk d q more saidLater e) :
    Walk d p (answers ++ more) (said ++ saidLater) e := by
  generalize hq : Arrival.point q = arrival at h
  induction h with
  | stay p =>
      cases hq
      exact hmore
  | done hanswer => cases hq
  | again hanswer hrest ih => exact .again hanswer (ih hq)
  | next hanswer hrest ih =>
      rw [List.append_assoc]
      exact .next hanswer (ih hq)

/-- A walk passes a point between any two parts of its answers, unless the second part is empty. -/
theorem Walk.split {p : σ} {answers more : List Answer} {said : List Saying} {e : Arrival σ ρ}
    (h : Walk d p (answers ++ more) said e) (hmore : more ≠ []) :
    ∃ q saidFirst saidLater, said = saidFirst ++ saidLater ∧
      Walk d p answers saidFirst (.point q) ∧ Walk d q more saidLater e := by
  induction answers generalizing p said with
  | nil => exact ⟨p, [], said, rfl, .stay p, h⟩
  | cons a answers ih =>
      rw [List.cons_append] at h
      generalize hall : a :: (answers ++ more) = all at h
      cases h with
      | stay => cases hall
      | done hanswer =>
          have hnil : answers ++ more = [] := (List.cons.inj hall).2
          exact absurd (List.append_eq_nil_iff.1 hnil).2 hmore
      | again hanswer hrest =>
          cases hall
          obtain ⟨q, saidFirst, saidLater, rfl, hfirst, hlater⟩ := ih hrest
          exact ⟨q, _, saidLater, rfl, .again hanswer hfirst, hlater⟩
      | next hanswer hrest =>
          cases hall
          obtain ⟨q, saidFirst, saidLater, rfl, hfirst, hlater⟩ := ih hrest
          exact ⟨q, _, saidLater, by rw [List.append_assoc], .next hanswer hfirst, hlater⟩

/-- Each answer is the answer to one question. -/
theorem Walk.count_questions {p : σ} {answers : List Answer} {said : List Saying}
    {e : Arrival σ ρ} (h : Walk d p answers said e) :
    (said.filter Saying.isQuestion).length = answers.length := by
  have hannounced (texts : List Text) :
      (texts.map Saying.announced).filter Saying.isQuestion = [] := by
    simp [List.filter_eq_nil_iff, Saying.isQuestion]
  induction h with
  | stay p => rfl
  | done hanswer => rfl
  | again hanswer hrest ih => simp [List.filter_cons, Saying.isQuestion, ih]
  | next hanswer hrest ih => simp [List.filter_cons, Saying.isQuestion, hannounced, ih]

/-! ## Questions that are put until an answer can be read -/

/-- A question is put again after every answer that cannot be read, with the reason, and at last
there is one that is read as the value. -/
inductive AskedUntilRead {α : Type} (question : Text) (read : Answer → Except Rejection α)
    (value : α) : List Answer → List Saying → Prop
  | read {a : Answer} (hread : read a = .ok value) :
      AskedUntilRead question read value [a] [.asked question]
  | refused {a : Answer} {why : Rejection} {answers : List Answer} {said : List Saying}
      (hread : read a = .error why) (hrest : AskedUntilRead question read value answers said) :
      AskedUntilRead question read value (a :: answers) (.asked question :: .refused why :: said)

/-- The value is what one of the answers was read as. -/
theorem AskedUntilRead.exists_read {α : Type} {question : Text} {read : Answer → Except Rejection α}
    {value : α} {answers : List Answer} {said : List Saying}
    (h : AskedUntilRead question read value answers said) : ∃ a ∈ answers, read a = .ok value := by
  induction h with
  | read hread => exact ⟨_, List.mem_singleton_self _, hread⟩
  | refused hread hrest ih =>
      obtain ⟨a, ha, hlast⟩ := ih
      exact ⟨a, List.mem_cons_of_mem _ ha, hlast⟩

/-- Where a reading leads, if a value that is read leads on. -/
def readThen {α : Type} (onward : α → Move σ ρ) : Except Rejection α → Move σ ρ
  | .error why => .again why
  | .ok value => onward value

/-- What is left of a walk to a result behind a question, by the move that its answer made. -/
def Leaves (d : Dialogue σ ρ) (p : σ) (r : ρ) : Move σ ρ → List Answer → List Saying → Prop
  | .done r', answers, said => r' = r ∧ answers = [] ∧ said = []
  | .again why, answers, said =>
      ∃ later, said = .refused why :: later ∧ Walk d p answers later (.result r)
  | .next p' announcements, answers, said =>
      ∃ later, said = announcements.map .announced ++ later ∧ Walk d p' answers later (.result r)

/-- A walk to a result begins with a question and its answer. -/
theorem walk_result_cases {p : σ} {answers : List Answer} {said : List Saying} {r : ρ}
    (h : Walk d p answers said (.result r)) :
    ∃ a more later, answers = a :: more ∧ said = .asked (d.question p) :: later ∧
      Leaves d p r (d.answer p a) more later := by
  cases h with
  | done hanswer =>
      refine ⟨_, [], [], rfl, rfl, ?_⟩
      rw [hanswer]
      exact ⟨rfl, rfl, rfl⟩
  | again hanswer hrest =>
      refine ⟨_, _, _, rfl, rfl, ?_⟩
      rw [hanswer]
      exact ⟨_, rfl, hrest⟩
  | next hanswer hrest =>
      refine ⟨_, _, _, rfl, rfl, ?_⟩
      rw [hanswer]
      exact ⟨_, rfl, hrest⟩

section Reading

variable {α : Type} {p : σ} {read : Answer → Except Rejection α} {onward : α → Move σ ρ}

/-- **A walk to a result from a question that is put until it is read** begins with all that is
answered and said at this question, and goes on from the value. -/
theorem walk_result_of_reads (hanswer : ∀ a, d.answer p a = readThen onward (read a))
    {answers : List Answer} {said : List Saying} {r : ρ} (h : Walk d p answers said (.result r)) :
    ∃ value used more saidFirst later, answers = used ++ more ∧ said = saidFirst ++ later ∧
      AskedUntilRead (d.question p) read value used saidFirst ∧
      Leaves d p r (onward value) more later := by
  induction answers generalizing said with
  | nil => cases h
  | cons a answers ih =>
      obtain ⟨_, _, later, hsplit, rfl, hleaves⟩ := walk_result_cases h
      cases hsplit
      rw [hanswer] at hleaves
      cases hread : read a with
      | ok value =>
          rw [hread] at hleaves
          exact ⟨value, [a], answers, _, later, rfl, rfl, .read hread, hleaves⟩
      | error why =>
          rw [hread] at hleaves
          obtain ⟨later, rfl, hrest⟩ := hleaves
          obtain ⟨value, used, more, saidFirst, last, rfl, rfl, hasked, hlast⟩ := ih hrest
          exact ⟨value, a :: used, more, _, last, rfl, rfl, .refused hread hasked, hlast⟩

/-- At such a question a walk stays where it is until the last answer, which is read. -/
theorem AskedUntilRead.stays (hanswer : ∀ a, d.answer p a = readThen onward (read a)) {value : α}
    {answers : List Answer} {said : List Saying}
    (h : AskedUntilRead (d.question p) read value answers said) :
    ∃ refused a saidFirst, answers = refused ++ [a] ∧
      said = saidFirst ++ [.asked (d.question p)] ∧ d.answer p a = onward value ∧
      Walk d p refused saidFirst (.point p) := by
  induction h with
  | @read a hread =>
      refine ⟨[], a, [], rfl, rfl, ?_, .stay p⟩
      rw [hanswer, hread, readThen]
  | @refused a why _ _ hread hrest ih =>
      obtain ⟨refused, last, saidFirst, rfl, rfl, hlast, hwalk⟩ := ih
      have hmove : d.answer p a = .again why := by
        rw [hanswer, hread, readThen]
      exact ⟨a :: refused, last, _, rfl, rfl, hlast, .again hmove hwalk⟩

/-- What is answered and said at such a question leads to where the value leads. -/
theorem AskedUntilRead.walk_point (hanswer : ∀ a, d.answer p a = readThen onward (read a))
    {value : α} {p' : σ} {announcements : List Text}
    (honward : onward value = .next p' announcements) {answers : List Answer} {said : List Saying}
    (h : AskedUntilRead (d.question p) read value answers said) :
    Walk d p answers (said ++ announcements.map .announced) (.point p') := by
  obtain ⟨refused, a, saidFirst, rfl, rfl, hlast, hwalk⟩ := h.stays hanswer
  have hstep := Walk.next (hlast.trans honward) (.stay p')
  rw [List.append_nil] at hstep
  rw [List.append_assoc]
  exact hwalk.append hstep

theorem AskedUntilRead.walk_result (hanswer : ∀ a, d.answer p a = readThen onward (read a))
    {value : α} {r : ρ} (honward : onward value = .done r) {answers : List Answer}
    {said : List Saying} (h : AskedUntilRead (d.question p) read value answers said) :
    Walk d p answers said (.result r) := by
  obtain ⟨refused, a, saidFirst, rfl, rfl, hlast, hwalk⟩ := h.stays hanswer
  exact hwalk.append (.done (hlast.trans honward))

end Reading

/-! ## Runs -/

/-- **A run is a walk, and then the run from where the walk arrives.** -/
theorem run_of_walk {p : σ} {answers : List Answer} {said : List Saying} {e : Arrival σ ρ}
    (h : Walk d p answers said e) (rest : List Answer) :
    d.run true p (answers ++ rest) = (d.runFrom e rest).after said := by
  induction h with
  | stay p => rfl
  | done hanswer => simp [run, hanswer, runFrom, Transcript.after]
  | again hanswer hrest ih => simp [run, hanswer, ih, Transcript.after, heard_true]
  | next hanswer hrest ih => simp [run, hanswer, ih, Transcript.after, heard_true]

/-- What is said on a walk begins the log of every run that begins with it. -/
theorem prefix_log_of_walk {p : σ} {answers : List Answer} {said : List Saying} {e : Arrival σ ρ}
    (h : Walk d p answers said e) (rest : List Answer) :
    said <+: (d.run true p (answers ++ rest)).log := by
  rw [run_of_walk h rest]
  exact ⟨(d.runFrom e rest).log, rfl⟩

theorem run_of_walk_point {p q : σ} {answers : List Answer} {said : List Saying}
    (h : Walk d p answers said (.point q)) :
    d.run true p answers = ⟨none, said ++ [.asked (d.question q)], []⟩ := by
  have hrun := run_of_walk h []
  rw [List.append_nil] at hrun
  rw [hrun]
  rfl

theorem run_of_walk_result {p : σ} {answers : List Answer} {said : List Saying} {r : ρ}
    (h : Walk d p answers said (.result r)) (rest : List Answer) :
    d.run true p (answers ++ rest) = ⟨some r, said, rest⟩ := by
  rw [run_of_walk h rest, runFrom, Transcript.after, List.append_nil]

/-- **The answers lead all the way to a point, or a beginning of them leads to a result.** -/
theorem walk_or_result (d : Dialogue σ ρ) (p : σ) (answers : List Answer) :
    (∃ said q, Walk d p answers said (.point q)) ∨
      ∃ used rest said r, answers = used ++ rest ∧ Walk d p used said (.result r) := by
  induction answers generalizing p with
  | nil => exact .inl ⟨[], p, .stay p⟩
  | cons a answers ih =>
      cases hmove : d.answer p a with
      | done r => exact .inr ⟨[a], answers, _, r, rfl, .done hmove⟩
      | again why =>
          rcases ih p with ⟨said, q, h⟩ | ⟨used, rest, said, r, rfl, h⟩
          · exact .inl ⟨_, q, .again hmove h⟩
          · exact .inr ⟨a :: used, rest, _, r, rfl, .again hmove h⟩
      | next p' announcements =>
          rcases ih p' with ⟨said, q, h⟩ | ⟨used, rest, said, r, rfl, h⟩
          · exact .inl ⟨_, q, .next hmove h⟩
          · exact .inr ⟨a :: used, rest, _, r, rfl, .next hmove h⟩

/-- A run without a result has walked through all its answers. -/
theorem walk_of_result_eq_none {p : σ} {answers : List Answer}
    (h : (d.run true p answers).result = none) :
    ∃ said q, Walk d p answers said (.point q) ∧
      d.run true p answers = ⟨none, said ++ [.asked (d.question q)], []⟩ := by
  rcases walk_or_result d p answers with ⟨said, q, hwalk⟩ | ⟨used, rest, said, r, rfl, hwalk⟩
  · exact ⟨said, q, hwalk, run_of_walk_point hwalk⟩
  · rw [run_of_walk_result hwalk] at h
    cases h

/-- A run with a result has walked to it through the answers that it has used. -/
theorem walk_of_result_eq_some {p : σ} {answers : List Answer} {r : ρ}
    (h : (d.run true p answers).result = some r) :
    ∃ used, answers = used ++ (d.run true p answers).unused ∧
      Walk d p used (d.run true p answers).log (.result r) := by
  rcases walk_or_result d p answers with ⟨said, q, hwalk⟩ | ⟨used, rest, said, r', rfl, hwalk⟩
  · rw [run_of_walk_point hwalk] at h
    cases h
  · rw [run_of_walk_result hwalk] at h ⊢
    cases h
    exact ⟨used, rfl, hwalk⟩

/-- Whether a dialogue reports decides about nothing but its log. -/
theorem run_reporting (d : Dialogue σ ρ) (reporting : Bool) (p : σ) (answers : List Answer) :
    d.run reporting p answers =
      { d.run true p answers with log := heard reporting (d.run true p answers).log } := by
  cases reporting with
  | true => rfl
  | false => exact run_silent d p answers

/-- **A run has the results that a beginning of its answers leads to.** -/
theorem result_run_eq_some_iff {reporting : Bool} {p : σ} {answers : List Answer} {r : ρ} :
    (d.run reporting p answers).result = some r ↔
      ∃ used said, used <+: answers ∧ Walk d p used said (.result r) := by
  rw [run_reporting]
  constructor
  · intro h
    obtain ⟨used, hused, hwalk⟩ := walk_of_result_eq_some h
    exact ⟨used, _, ⟨_, hused.symm⟩, hwalk⟩
  · rintro ⟨used, said, ⟨rest, rfl⟩, hwalk⟩
    rw [run_of_walk_result hwalk]

/-! ## Where a run stops -/

/-- A proper beginning of the answers that lead to a result leads to a point only. -/
theorem Walk.point_of_prefix {p : σ} {used short : List Answer} {said : List Saying} {r : ρ}
    (h : Walk d p used said (.result r)) (hshort : short <+: used) (hne : short ≠ used) :
    ∃ saidFirst q, Walk d p short saidFirst (.point q) := by
  obtain ⟨more, rfl⟩ := hshort
  have hmore : more ≠ [] := by
    rintro rfl
    exact hne (List.append_nil short).symm
  obtain ⟨q, saidFirst, -, -, hfirst, -⟩ := h.split hmore
  exact ⟨saidFirst, q, hfirst⟩

/-- **A dialogue uses up a beginning of its answers, which ends where it has its result.** -/
theorem selfDelimiting_run (d : Dialogue σ ρ) (reporting : Bool) (p : σ) :
    SelfDelimiting (d.run reporting p) := by
  intro answers
  simp only [run_reporting d reporting p]
  cases hresult : (d.run true p answers).result with
  | none =>
      obtain ⟨said, q, -, hrun⟩ := walk_of_result_eq_none hresult
      left
      rw [hrun]
      exact ⟨rfl, rfl⟩
  | some r =>
      obtain ⟨used, hused, hwalk⟩ := walk_of_result_eq_some hresult
      refine .inr ⟨used, r, hused, rfl, ?_, ?_⟩
      · intro more
        rw [run_of_walk_result hwalk]
      · intro short hshort hne
        obtain ⟨saidFirst, q, hfirst⟩ := hwalk.point_of_prefix hshort hne
        rw [run_of_walk_point hfirst]
        exact ⟨rfl, rfl⟩

end Dialogue

end Scaffold
