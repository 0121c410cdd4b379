/-
# Scaffold.Proofs.Text.Lines -- the lines of a text

A line feed ends a line, and the last line may go without. So a text of lines that are each ended
has just these lines (`lines_flatMap`), and so has a text of lines with line feeds between them, if
the last is not empty (`lines_join`). The empty text has no line at all.

A list is written with a mark behind each of its lines but the last. `punctuated` sets the marks
line by line; written with the mark and a line feed between the lines, a list is its punctuated
lines (`joinWith_eq_join_punctuated`).
-/

import Mathlib.Data.List.Basic
import Scaffold.Text.Basic

namespace Scaffold.Text

/-! ## Lines -/

/-- The lines of a text, without the line feeds that end them. -/
def lines : Text → List Text
  | [] => []
  | c :: s =>
    if c = '\n' then [] :: lines s
    else
      match lines s with
      | [] => [[c]]
      | line :: rest => (c :: line) :: rest

/-- What stands before the first line feed is the first line. -/
theorem lines_append_newline {line : Text} (h : chr '\n' ∉ line) (s : Text) :
    lines (line ++ chr '\n' :: s) = line :: lines s := by
  induction line with
  | nil => rfl
  | cons c line ih =>
      obtain ⟨hc, hline⟩ := not_or.1 (mt List.mem_cons.2 h)
      rw [List.cons_append, lines, if_neg (Ne.symm hc), ih hline]

theorem lines_of_not_mem {line : Text} (h : chr '\n' ∉ line) (hne : line ≠ []) :
    lines line = [line] := by
  induction line with
  | nil => exact absurd rfl hne
  | cons c line ih =>
      obtain ⟨hc, hline⟩ := not_or.1 (mt List.mem_cons.2 h)
      rw [lines, if_neg (Ne.symm hc)]
      cases line with
      | nil => rfl
      | cons d line => rw [ih hline (List.cons_ne_nil d line)]

/-- Lines that are each ended are the lines of their text. -/
theorem lines_flatMap {ls : List Text} (h : ∀ line ∈ ls, chr '\n' ∉ line) :
    lines (ls.flatMap (· ++ [chr '\n'])) = ls := by
  induction ls with
  | nil => rfl
  | cons line ls ih =>
      obtain ⟨hline, hls⟩ := List.forall_mem_cons.1 h
      rw [List.flatMap_cons, List.append_assoc, List.singleton_append,
        lines_append_newline hline, ih hls]

theorem join_cons {ls : List Text} (h : ls ≠ []) (sep : CodePoint) (line : Text) :
    join sep (line :: ls) = line ++ sep :: join sep ls := by
  cases ls with
  | nil => exact absurd rfl h
  | cons next ls => rfl

/-- Ended once more, lines with a line feed between each two are lines that are each ended. -/
theorem join_append_newline {ls : List Text} (h : ls ≠ []) :
    join '\n' ls ++ [chr '\n'] = ls.flatMap (· ++ [chr '\n']) := by
  induction ls with
  | nil => exact absurd rfl h
  | cons line ls ih =>
      cases ls with
      | nil => simp [join]
      | cons next ls =>
          have hne := List.cons_ne_nil next ls
          calc join '\n' (line :: next :: ls) ++ [chr '\n']
              = line ++ [chr '\n'] ++ (join '\n' (next :: ls) ++ [chr '\n']) := by
                rw [join_cons hne, List.append_assoc, List.append_assoc]
                rfl
            _ = line ++ [chr '\n'] ++ (next :: ls).flatMap (· ++ [chr '\n']) := by rw [ih hne]
            _ = (line :: next :: ls).flatMap (· ++ [chr '\n']) := rfl

/-- Lines with a line feed between each two are the lines of their text. -/
theorem lines_join {ls : List Text} (h : ∀ line ∈ ls, chr '\n' ∉ line)
    (hne : ∀ line ∈ ls, line ≠ []) :
    lines (join '\n' ls) = ls := by
  induction ls with
  | nil => rfl
  | cons line ls ih =>
      obtain ⟨hline, hls⟩ := List.forall_mem_cons.1 h
      obtain ⟨hfirst, hothers⟩ := List.forall_mem_cons.1 hne
      cases ls with
      | nil => exact lines_of_not_mem hline hfirst
      | cons next ls =>
          rw [join_cons (List.cons_ne_nil next ls), lines_append_newline hline, ih hls hothers]

/-! ## Marks between lines -/

/-- The lines with the mark behind each but the last. -/
def punctuated (mark : Text) : List Text → List Text
  | [] => []
  | [line] => [line]
  | line :: next :: ls => (line ++ mark) :: punctuated mark (next :: ls)

theorem length_punctuated (mark : Text) (ls : List Text) :
    (punctuated mark ls).length = ls.length := by
  fun_induction punctuated mark ls with
  | case1 => rfl
  | case2 => rfl
  | case3 line next ls ih => exact congrArg Nat.succ ih

/-- Each line stays in its place, and only the last goes without the mark. -/
theorem getElem?_punctuated (mark : Text) (ls : List Text) (i : Nat) :
    (punctuated mark ls)[i]? =
      ls[i]?.map fun line => line ++ if i + 1 = ls.length then [] else mark := by
  fun_induction punctuated mark ls generalizing i with
  | case1 => rfl
  | case2 line =>
      cases i with
      | zero => simp
      | succ i => simp
  | case3 line next ls ih =>
      cases i with
      | zero => simp
      | succ i => simpa using ih i

/-- A punctuated line is one of the lines, with the mark or without it. -/
theorem mem_punctuated {mark line : Text} {ls : List Text} (h : line ∈ punctuated mark ls) :
    ∃ l ∈ ls, line = l ∨ line = l ++ mark := by
  obtain ⟨i, hi⟩ := List.mem_iff_getElem?.1 h
  rw [getElem?_punctuated, Option.map_eq_some_iff] at hi
  obtain ⟨l, hl, rfl⟩ := hi
  refine ⟨l, List.mem_of_getElem? hl, ?_⟩
  split
  · left
    exact List.append_nil l
  · right
    rfl

/-- The marks can be taken off again. -/
theorem punctuated_injective (mark : Text) : Function.Injective (punctuated mark) := by
  intro ls ms h
  have hlength : ls.length = ms.length := by
    rw [← length_punctuated mark ls, h, length_punctuated]
  apply List.ext_getElem?
  intro i
  have hline : (punctuated mark ls)[i]? = (punctuated mark ms)[i]? := by rw [h]
  rw [getElem?_punctuated, getElem?_punctuated, hlength] at hline
  exact Option.map_injective (List.append_left_injective _) hline

/-- **A list with the mark and a line feed between its lines** is its punctuated lines. -/
theorem joinWith_eq_join_punctuated (mark : Text) (ls : List Text) :
    joinWith (mark ++ [chr '\n']) ls = join '\n' (punctuated mark ls) := by
  fun_induction punctuated mark ls with
  | case1 => rfl
  | case2 line => rfl
  | case3 line next ls ih =>
      have hne : punctuated mark (next :: ls) ≠ [] := by
        rw [← List.length_pos_iff, length_punctuated]
        exact Nat.succ_pos _
      rw [join_cons hne, ← ih, joinWith]
      · simp
      · exact List.cons_ne_nil next ls

end Scaffold.Text
