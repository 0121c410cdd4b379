/-
# Scaffold.Proofs.Text.Spacing -- texts without stray white space

A text is well spaced if no line of it ends in a blank character, no two empty lines follow each
other, and it ends in exactly one line feed. Whether it is can be told while it is read, character
by character, from little more than where the reading stands: at the beginning of a line, with or
without an empty line before it, or inside a line, behind a visible or a blank character.
`scan` keeps that and stops at the first fault, and `wellSpaced_of_scan` says that a text without
a fault that leads from behind an empty line to behind one that is not empty is well spaced.

Texts are put together from texts, and so are scans (`scan_append`). A text that leads from anywhere
to behind a visible character (`Firm`) can stand in any place where that is what is wanted. Names
are firm, and so is what is put together from lines that end visibly.
-/

import Mathlib.Data.List.Chain
import Scaffold.Proofs.Text.Lines
import Scaffold.Text.Blank

namespace Scaffold.Text

/-! ## Well spaced texts -/

/-- No line ends in a blank character, no empty line follows an empty one, and one line feed ends
the text. -/
structure WellSpaced (s : Text) : Prop where
  ends_visibly : ∀ line ∈ lines s, ∀ c, line.getLast? = some c → isBlankChar c = false
  no_two_empty : ¬ [[], []] <:+: lines s
  one_line_feed : ∃ body c, c ≠ chr '\n' ∧ s = body ++ [c, chr '\n']

/-! ## Reading a text -/

/-- Where the reading of a text stands. -/
inductive LinePoint where
  /-- At the beginning of a line. The line before it, if there is one, is not empty. -/
  | fresh
  /-- At the beginning of a line behind an empty one. -/
  | gap
  /-- Inside a line, behind a visible character. -/
  | visible
  /-- Inside a line, behind a blank character. -/
  | blank
  deriving DecidableEq, Repr

/-- Where a character leads, unless it is a fault: a line feed behind a blank character, or one that
makes a second empty line. -/
def LinePoint.after (p : LinePoint) (c : CodePoint) : Option LinePoint :=
  if c = '\n' then
    match p with
    | fresh => some gap
    | visible => some fresh
    | gap | blank => none
  else some (if isBlankChar c then blank else visible)

/-- Where a text leads, unless it has a fault. -/
def scan (p : LinePoint) (s : Text) : Option LinePoint := s.foldlM LinePoint.after p

variable {p q : LinePoint} {s t : Text}

theorem scan_append (p : LinePoint) (s t : Text) :
    scan p (s ++ t) = (scan p s).bind fun q => scan q t :=
  List.foldlM_append

theorem scan_append_of_eq_some (h : scan p s = some q) (t : Text) : scan p (s ++ t) = scan q t := by
  rw [scan_append, h, Option.bind_some]

/-! ## What is known of a text that was read -/

/-- What a point tells about the lines that are finished and the line in hand. -/
def LinePoint.Tells (finished : List Text) (line : Text) : LinePoint → Prop
  | fresh => line = [] ∧ finished.getLast? ≠ some []
  | visible => ∃ c, line.getLast? = some c ∧ isBlankChar c = false
  | gap | blank => True

/-- What is known of the lines of a text that has led to a point without a fault. -/
structure Read (finished : List Text) (line : Text) (p : LinePoint) : Prop where
  newline_not_mem : ∀ l ∈ finished, chr '\n' ∉ l
  newline_not_mem_line : chr '\n' ∉ line
  ends_visibly : ∀ l ∈ finished, ∀ c, l.getLast? = some c → isBlankChar c = false
  no_two_empty : finished.IsChain fun l next => l ≠ [] ∨ next ≠ []
  tells : p.Tells finished line

/-- A character inside a line joins it. -/
theorem Read.inside {finished : List Text} {line : Text} (h : Read finished line p) {c : CodePoint}
    (hc : c ≠ '\n') (hafter : p.after c = some q) : Read finished (line ++ [c]) q where
  newline_not_mem := h.newline_not_mem
  newline_not_mem_line := by
    apply List.not_mem_append h.newline_not_mem_line
    simpa using Ne.symm hc
  ends_visibly := h.ends_visibly
  no_two_empty := h.no_two_empty
  tells := by
    simp only [LinePoint.after, if_neg hc, Option.some.injEq] at hafter
    subst hafter
    cases hblank : isBlankChar c with
    | true => trivial
    | false => exact ⟨c, List.getLast?_concat, hblank⟩

/-- A line feed finishes the line. -/
theorem Read.finish {finished : List Text} {line : Text} (h : Read finished line p)
    (hafter : p.after '\n' = some q) : Read (finished ++ [line]) [] q := by
  have hends : (∀ c, line.getLast? = some c → isBlankChar c = false) ∧
      (∀ l ∈ finished.getLast?, l ≠ [] ∨ line ≠ []) ∧ q.Tells (finished ++ [line]) [] := by
    -- From the other two points a line feed is a fault.
    cases p with
    | fresh =>
        obtain ⟨rfl, hlast⟩ := h.tells
        cases hafter
        refine ⟨?_, ?_, trivial⟩
        · intro c hc
          cases hc
        · intro l hl
          left
          rintro rfl
          exact hlast hl
    | visible =>
        obtain ⟨c, hc, hvisible⟩ := h.tells
        cases hafter
        have hne : line ≠ [] := by
          rintro rfl
          cases hc
        refine ⟨?_, fun l _ => .inr hne, rfl, ?_⟩
        · intro d hd
          rw [hc, Option.some.injEq] at hd
          rwa [← hd]
        · rw [List.getLast?_concat]
          intro hnil
          exact hne (Option.some.inj hnil)
    | gap => cases hafter
    | blank => cases hafter
  obtain ⟨hvisible, hchain, htells⟩ := hends
  refine ⟨?_, List.not_mem_nil, ?_, ?_, htells⟩
  · intro l hl
    rcases List.mem_append.1 hl with hl | hl
    · exact h.newline_not_mem l hl
    · rw [List.mem_singleton.1 hl]
      exact h.newline_not_mem_line
  · intro l hl
    rcases List.mem_append.1 hl with hl | hl
    · exact h.ends_visibly l hl
    · rw [List.mem_singleton.1 hl]
      exact hvisible
  · rw [List.isChain_append]
    refine ⟨h.no_two_empty, List.isChain_singleton _, ?_⟩
    intro l hl next hnext
    obtain rfl : line = next := by simpa using hnext
    exact hchain l hl

/-- **A text that is read on without a fault** adds its characters to the lines. -/
theorem Read.extend {finished : List Text} {line : Text} (h : Read finished line p)
    (hscan : scan p s = some q) :
    ∃ finished' line', finished.flatMap (· ++ [chr '\n']) ++ line ++ s =
        finished'.flatMap (· ++ [chr '\n']) ++ line' ∧ Read finished' line' q := by
  -- The lines are those of what was read before; the induction is on what is still to be read.
  induction s generalizing p finished line with
  | nil =>
      cases hscan
      exact ⟨finished, line, List.append_nil _, h⟩
  | cons c s ih =>
      rw [scan, List.foldlM_cons, Option.bind_eq_bind, Option.bind_eq_some_iff] at hscan
      obtain ⟨p', hafter, hrest⟩ := hscan
      by_cases hc : c = '\n'
      · subst hc
        obtain ⟨finished', line', heq, hread⟩ := ih (h.finish hafter) hrest
        refine ⟨finished', line', ?_, hread⟩
        rw [← heq]
        simp
      · obtain ⟨finished', line', heq, hread⟩ := ih (h.inside hc hafter) hrest
        refine ⟨finished', line', ?_, hread⟩
        rw [← heq]
        simp

/-- **A text without a fault is well spaced**, if it begins and ends with lines that are not empty.
Read as if an empty line were in front of it, it cannot begin with another. -/
theorem wellSpaced_of_scan (h : scan .gap s = some .fresh) : WellSpaced s := by
  have hne : s ≠ [] := by
    rintro rfl
    cases h
  have hstart : Read [] [] .gap := by
    refine ⟨?_, List.not_mem_nil, ?_, List.isChain_nil, trivial⟩
    · simp
    · simp
  obtain ⟨finished, line, heq, hread⟩ := hstart.extend h
  obtain ⟨rfl, hlast⟩ := hread.tells
  simp only [List.flatMap_nil, List.nil_append, List.append_nil] at heq
  have hlines : lines s = finished := by rw [heq, lines_flatMap hread.newline_not_mem]
  refine ⟨?_, ?_, ?_⟩
  · rw [hlines]
    exact hread.ends_visibly
  · rw [hlines]
    intro hempty
    have hchain := hread.no_two_empty.infix hempty
    simp at hchain
  · rcases List.eq_nil_or_concat' finished with rfl | ⟨before, last, rfl⟩
    · exact absurd heq hne
    · have hempty : last ≠ [] := by
        rintro rfl
        exact hlast (List.getLast?_concat)
      obtain ⟨body, c, rfl⟩ := (List.eq_nil_or_concat' last).resolve_left hempty
      refine ⟨before.flatMap (· ++ [chr '\n']) ++ body, c, ?_, ?_⟩
      · rintro rfl
        have hfree := hread.newline_not_mem (body ++ [chr '\n']) (by simp)
        simp at hfree
      · rw [heq]
        simp

/-! ## Firm texts -/

/-- From anywhere, the text has no fault and leads to behind a visible character. -/
def Firm (s : Text) : Prop := ∀ p, scan p s = some .visible

instance (s : Text) : Decidable (Firm s) :=
  decidable_of_iff (∀ p ∈ [LinePoint.fresh, .gap, .visible, .blank], scan p s = some .visible) <| by
    constructor
    · intro h p
      exact h p (by cases p <;> decide)
    · intro h p _
      exact h p

theorem firm_singleton {c : CodePoint} (hc : c ≠ '\n') (hvisible : isBlankChar c = false) :
    Firm [c] := by
  intro p
  simp [scan, LinePoint.after, hc, hvisible]

theorem Firm.ne_nil (h : Firm s) : s ≠ [] := by
  rintro rfl
  cases h .fresh

/-- Inside a line there are no faults. -/
theorem exists_scan_of_not_mem (h : chr '\n' ∉ s) (p : LinePoint) : ∃ q, scan p s = some q := by
  induction s generalizing p with
  | nil => exact ⟨p, rfl⟩
  | cons c s ih =>
      obtain ⟨hc, hs⟩ := not_or.1 (mt List.mem_cons.2 h)
      obtain ⟨q, hq⟩ := ih hs (if isBlankChar c then .blank else .visible)
      refine ⟨q, ?_⟩
      rw [← hq]
      simp [scan, LinePoint.after, Ne.symm hc]

theorem Firm.append (hs : Firm s) (ht : Firm t) : Firm (s ++ t) := by
  intro p
  rw [scan_append_of_eq_some (hs p)]
  exact ht .visible

/-- What stands before a firm text in its line makes no difference. -/
theorem Firm.behind (ht : Firm t) (hs : chr '\n' ∉ s) : Firm (s ++ t) := by
  intro p
  obtain ⟨q, hq⟩ := exists_scan_of_not_mem hs p
  rw [scan_append_of_eq_some hq]
  exact ht q

/-- Firm lines can follow each other. -/
theorem Firm.newline (hs : Firm s) (ht : Firm t) : Firm (s ++ chr '\n' :: t) := by
  intro p
  rw [scan_append_of_eq_some (hs p)]
  exact ht .fresh

theorem Firm.join {ls : List Text} (hne : ls ≠ []) (h : ∀ line ∈ ls, Firm line) :
    Firm (join '\n' ls) := by
  induction ls with
  | nil => exact absurd rfl hne
  | cons line ls ih =>
      obtain ⟨hline, hls⟩ := List.forall_mem_cons.1 h
      cases ls with
      | nil => exact hline
      | cons next ls =>
          have hnext := List.cons_ne_nil next ls
          rw [join_cons hnext]
          exact hline.newline (ih hnext hls)

/-- A list of firm lines, with commas between them, is firm. -/
theorem Firm.listed {ls : List Text} (hne : ls ≠ []) (h : ∀ line ∈ ls, Firm line) :
    Firm (joinWith ",\n".text ls) := by
  have hcomma : Firm [chr ','] := by decide
  show Firm (joinWith ([chr ','] ++ [chr '\n']) ls)
  rw [joinWith_eq_join_punctuated]
  apply Firm.join
  · rw [← List.length_pos_iff, length_punctuated, List.length_pos_iff]
    exact hne
  · intro line hline
    obtain ⟨l, hl, rfl | rfl⟩ := mem_punctuated hline
    · exact h line hl
    · exact (h l hl).append hcomma

/-- Stripping from the right leaves a visible character at the end, if it leaves any. -/
theorem isBlankChar_of_getLast?_stripRight {c : CodePoint} (h : (stripRight s).getLast? = some c) :
    isBlankChar c = false := by
  induction s with
  | nil => cases h
  | cons d s ih =>
      rw [stripRight_cons] at h
      split at h
      next =>
        split at h
        next => cases h
        next hvisible =>
          cases h
          exact Bool.eq_false_iff.2 hvisible
      next hne =>
        obtain ⟨e, t, ht⟩ := List.exists_cons_of_ne_nil hne
        rw [ht, List.getLast?_cons_cons, ← ht] at h
        exact ih h

/-- **A stripped name on one line is firm.** -/
theorem firm_of_isStripped (hstripped : IsStripped s) (hblank : isBlank s = false)
    (hline : chr '\n' ∉ s) : Firm s := by
  have hne : s ≠ [] := ne_nil_of_isBlank_eq_false hblank
  obtain ⟨before, c, rfl⟩ := (List.eq_nil_or_concat' s).resolve_left hne
  obtain ⟨hbefore, hc⟩ := not_or.1 (mt List.mem_append.2 hline)
  have hlast : (stripRight (stripLeft (before ++ [c]))).getLast? = some c := by
    rw [← strip, hstripped, List.getLast?_concat]
  have hvisible := isBlankChar_of_getLast?_stripRight hlast
  have hnewline : c ≠ '\n' := fun heq => hc (List.mem_singleton.2 heq.symm)
  exact (firm_singleton hnewline hvisible).behind hbefore

end Scaffold.Text
