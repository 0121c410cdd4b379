/-
# Scaffold.Proofs.Console.Table -- what can go wrong in a table

A table is drawn from texts that have been read. Of these it needs what every text that is set
needs: that the styles of their spans can be read, that no joiner stands in a text that has to be
cut, and, on a strict screen, that they are made of characters. Nothing else can go wrong, however
wide the texts are, however many lines they have, and however narrow the screen is
(`comesTo_tableLines`, `comesTo_showTable`).

Before that the names, the references and the title are read as marked-up text, and there a faulty
tag goes wrong (`isFaultOf_fieldsTable`). Where all of them are literal the table is the one that is
drawn from the texts themselves (`fieldsTable_of_literal`).
-/

import Scaffold.Console.Table
import Scaffold.Proofs.Console.Literal
import Scaffold.Proofs.Console.Setting
import Scaffold.Proofs.Field.Grammar

namespace Scaffold.Console

open Field.Spec (mapM_eq_ok_iff exists_mem_of_forall₂)

variable {R : Reasons} {s : StyledText} {l : Line} {width : Nat}

/-! ## Aligning and filling up -/

theorem sets_padRight (n : Nat) (hs : Sets R s) : Sets R (s.padRight n) := by
  refine ⟨fun c hc => ?_, hs.styles⟩
  exact (List.mem_append.1 hc).elim (hs.text c) (admitted_spaces n c)

theorem sets_padLeft (n : Nat) (hs : Sets R s) : Sets R (s.padLeft n) := by
  refine ⟨fun c hc => ?_, fun x hx => ?_⟩
  · exact (List.mem_append.1 hc).elim (admitted_spaces n c) (hs.text c)
  · obtain ⟨y, hy, rfl⟩ := List.mem_map.1 hx
    exact hs.styles y hy

theorem sets_moveLeft (n : Nat) (hs : Sets R s) : Sets R (s.moveLeft n) := by
  refine ⟨hs.text, fun x hx => ?_⟩
  obtain ⟨y, hy, rfl⟩ := List.mem_map.1 hx
  exact hs.styles y hy

theorem comesTo_leftAligned (hs : Sets R s) :
    ComesTo (Sets R) (OnlyIf R) (s.leftAligned width) :=
  (comesTo_cut true hs).map fun _ ht => sets_padRight _ ht

theorem comesTo_centred (hs : Sets R s) :
    ComesTo (Sets R) (OnlyIf R) (s.centred width) := by
  have hstripped : Sets R (s.replaceText s.text.stripRight) :=
    hs.replaceText fun c hc => hs.text c (Text.mem_of_mem_stripRight hc)
  refine (comesTo_cut false hstripped).bind fun t ht => ?_
  show Sets R _
  refine sets_padRight _ ?_
  split
  · exact sets_padLeft _ ht
  · exact sets_moveLeft _ ht

theorem comesTo_align {aligned : Nat → StyledText → Except Text.CutFault StyledText}
    (ellipsis : Bool) {lines : List StyledText}
    (haligned : ∀ t, Sets R t → ComesTo (Sets R) (OnlyIf R) (aligned width t))
    (hlines : ∀ t ∈ lines, Sets R t) :
    ComesTo (fun ts => ∀ t ∈ ts, Sets R t) (OnlyIf R)
      (StyledText.align aligned ellipsis width lines) := by
  refine (ComesTo.mapM fun t ht => haligned t (hlines t ht)).bind fun ts hts => ?_
  exact ComesTo.mapM fun t ht => comesTo_cut ellipsis (hts t ht)

theorem holds_append {l l' : Line} (hl : Holds R l) (hl' : Holds R l') : Holds R (l ++ l') := by
  rw [Holds, List.flatten_append]
  exact List.forall_mem_append.2 ⟨hl, hl'⟩

theorem comesTo_adjust (hl : Holds R l) : ComesTo (Holds R) (OnlyIf R) (l.adjust width) := by
  unfold Line.adjust
  split
  · show Holds R (l ++ [Text.spaces (width - l.width)])
    refine holds_append hl ?_
    rw [Holds, List.flatten_singleton]
    exact admitted_spaces _
  · exact comesTo_crop hl

/-! ## Cells and rows -/

/-- What a text comes to in the lines of a table. -/
abbrev ComesToLines (R : Reasons) : Except MarkupError (List Line) → Prop :=
  ComesTo (fun ls => ∀ l ∈ ls, Holds R l) (FailsOnly R)

/-- Texts that were aligned are put out as lines. -/
theorem comesTo_mapM_line? {tss : List (List StyledText)}
    (h : ∀ ts ∈ tss, ∀ t ∈ ts, Sets R t) :
    ComesToLines R (tss.flatten.mapM StyledText.line?) := by
  refine ComesTo.mapM fun t ht => ?_
  obtain ⟨ts, hts, ht⟩ := List.mem_flatten.1 ht
  exact comesTo_line? (h ts hts t ht)

theorem holds_padded (hl : Holds R l) : Holds R ([chr ' '] :: l ++ [[chr ' ']]) := by
  have hspace : Holds R [[chr ' ']] := admitted_spaces 1
  exact holds_append (holds_append (l := [[chr ' ']]) hspace hl) hspace

theorem comesTo_cellLines (wraps : Bool) (hs : Sets R s) :
    ComesToLines R (cellLines wraps width s) := by
  have hlines : ∀ t ∈ s.lines false, Sets R t := fun t ht =>
    .of_mem_lines hs admitted_space (by simp) ht
  unfold cellLines
  dsimp only
  split
  · show ∀ l ∈ ([] : List Line), Holds R l
    simp
  refine ComesTo.bind (Q := fun tss => ∀ ts ∈ tss, ∀ t ∈ ts, Sets R t)
    (comesTo_mapM_uncut fun t ht => ?_) fun tss htss => ?_
  · refine comesTo_align true (fun _ => comesTo_leftAligned) fun u hu => ?_
    split at hu
    · exact .of_mem_breakLine (hlines t ht) hu
    · exact List.mem_singleton.1 hu ▸ hlines t ht
  -- The lines are made as wide as the inside of the cell, and with a space on both sides again.
  refine (comesTo_mapM_line? htss).bind fun ls hls => ?_
  refine ComesTo.bind (comesTo_mapM_uncut fun l hl => comesTo_adjust (hls l hl)) fun ls hls => ?_
  exact comesTo_mapM_uncut fun l hl => comesTo_adjust (holds_padded (hls l hl))

theorem holds_getD {ls : List Line} (h : ∀ l ∈ ls, Holds R l) (i : Nat) :
    Holds R (ls.getD i []) := by
  rw [List.getD_eq_getElem?_getD]
  cases hl : ls[i]? with
  | none =>
      intro c hc
      simp at hc
  | some l => exact h l (List.mem_of_getElem? hl)

theorem holds_intercalate {sep : Line} {ls : List Line} (hsep : Holds R sep)
    (h : ∀ l ∈ ls, Holds R l) : Holds R (sep.intercalate ls) := by
  induction ls with
  | nil =>
      intro c hc
      simp at hc
  | cons l ls ih =>
      obtain ⟨hl, hls⟩ := List.forall_mem_cons.1 h
      cases ls with
      | nil =>
          rw [List.intercalate_singleton]
          exact hl
      | cons l' ls =>
          rw [List.intercalate_cons_cons]
          exact holds_append (holds_append hl hsep) (ih hls)

theorem holds_cellsLine {bar : CodePoint} {cells : List Line} (hbar : Admitted R bar)
    (h : ∀ l ∈ cells, Holds R l) : Holds R (cellsLine bar cells) := by
  have hends : Holds R [[bar]] := fun c hc => by
    rw [List.flatten_singleton, List.mem_singleton] at hc
    rwa [hc]
  exact holds_append (l := [[bar]]) hends (holds_append (holds_intercalate hends h) hends)

theorem comesTo_rowLines {bar : CodePoint} {widths : List Nat} {wraps : List Bool}
    {cells : List StyledText} (hbar : Admitted R bar) (h : ∀ s ∈ cells, Sets R s) :
    ComesToLines R (rowLines bar widths wraps cells) := by
  unfold rowLines
  refine ComesTo.bind (Q := fun lss => ∀ ls ∈ lss, ∀ l ∈ ls, Holds R l)
    (ComesTo.mapM fun x hx => ?_) fun lss hlss => ?_
  · have hcell : x.1.1 ∈ cells := (List.of_mem_zip (List.of_mem_zip hx).1).1
    exact comesTo_cellLines _ (h _ hcell)
  refine ComesTo.bind (Q := fun lss => ∀ ls ∈ lss, ∀ l ∈ ls, Holds R l)
    (comesTo_mapM_uncut fun x hx => ComesTo.mapM fun i _ => ?_) fun lss hlss => ?_
  · exact comesTo_adjust (holds_getD (hlss _ (List.of_mem_zip hx).1) i)
  · show ∀ l ∈ (List.range _).map _, Holds R l
    intro l hl
    obtain ⟨i, -, rfl⟩ := List.mem_map.1 hl
    refine holds_cellsLine hbar fun l hl => ?_
    obtain ⟨ls, hls, rfl⟩ := List.mem_map.1 hl
    exact holds_getD (hlss ls hls) i

/-! ## The table -/

theorem comesTo_titleLines (hs : Sets R s) : ComesToLines R (titleLines width s) := by
  unfold titleLines
  refine ComesTo.bind (Q := fun tss => ∀ ts ∈ tss, ∀ t ∈ ts, Sets R t)
    (comesTo_mapM_uncut fun t ht => ?_) fun tss htss => comesTo_mapM_line? htss
  refine comesTo_align false (fun _ => comesTo_centred) fun u hu => ?_
  exact .of_mem_breakLine (.of_mem_lines hs admitted_space (fun _ => legible_unnamed) ht) hu

theorem holds_rule {left dash crossing right : CodePoint} {widths : List Nat}
    (h : ∀ c ∈ [left, dash, crossing, right], Admitted R c) :
    Holds R (rule left dash crossing right widths) := by
  intro c hc
  by_contra hnot
  have hc' : ∀ d ∈ [left, dash, crossing, right], c ≠ d := by
    rintro d hd rfl
    exact hnot (h c hd)
  simp only [List.forall_mem_cons, ne_eq] at hc'
  obtain ⟨hleft, hdash, hcrossing, hright, -⟩ := hc'
  have hdashes : c ∉ Text.join crossing (widths.map fun w => List.replicate w dash) := by
    refine Text.not_mem_join hcrossing fun piece hpiece hmem => ?_
    obtain ⟨w, -, rfl⟩ := List.mem_map.1 hpiece
    exact hdash (List.eq_of_mem_replicate hmem)
  rw [rule, List.flatten_singleton] at hc
  simp [hleft, hright, hdashes] at hc

/-- The cells of a row can be laid out. -/
def Row.Sets (R : Reasons) (row : Row) : Prop := ∀ s ∈ row.cells, Console.Sets R s

/-- A text of characters without spans and joiners can be laid out. -/
theorem sets_of_not_mem {t : Text} (hjoiner : Text.joiner ∉ t) (hunicode : t.isUnicode = true) :
    Sets R ⟨t, []⟩ :=
  ⟨admitted_of_not_mem hjoiner hunicode, by simp⟩

theorem sets_header : header.Sets R := by
  have hcells : ∀ s ∈ header.cells,
      s = ⟨s.text, []⟩ ∧ Text.joiner ∉ s.text ∧ s.text.isUnicode = true := by decide
  intro s hs
  obtain ⟨hspans, hjoiner, hunicode⟩ := hcells s hs
  rw [hspans]
  exact sets_of_not_mem hjoiner hunicode

/-- **A table is drawn**, unless something is about its texts. -/
theorem comesTo_tableLines {title : StyledText} {rows : List Row} (htitle : Sets R title)
    (hrows : ∀ row ∈ rows, row.Sets R) : ComesToLines R (tableLines width title rows) := by
  have hrule : ∀ {t : Text}, Text.joiner ∉ t → t.isUnicode = true → ∀ c ∈ t, Admitted R c :=
    admitted_of_not_mem
  unfold tableLines
  dsimp only
  refine (comesTo_titleLines htitle).bind fun titled htitled => ?_
  refine (comesTo_rowLines (admitted_chr (by decide)) sets_header).bind fun headed hheaded => ?_
  refine ComesTo.bind (Q := fun lss => ∀ ls ∈ lss, ∀ l ∈ ls, Holds R l)
    (ComesTo.mapM fun row hrow => comesTo_rowLines (admitted_chr (by decide)) (hrows row hrow))
    fun body hbody => ?_
  show ∀ l ∈ titled ++ _ ++ headed ++ _ ++ body.flatten ++ _, Holds R l
  simp only [List.forall_mem_append, List.forall_mem_singleton]
  refine ⟨⟨⟨⟨⟨htitled, holds_rule (hrule (by decide) (by decide))⟩, hheaded⟩,
    holds_rule (hrule (by decide) (by decide))⟩, ?_⟩, holds_rule (hrule (by decide) (by decide))⟩
  intro l hl
  obtain ⟨ls, hls, hl⟩ := List.mem_flatten.1 hl
  exact hbody ls hls l hl

variable {screen : Screen}

/-- **A table is shown**, unless something is about its texts. -/
theorem comesTo_showTable (hstrict : screen.isStrict = true → R.strict) {title : StyledText}
    {rows : List Row} (htitle : Sets R title) (hrows : ∀ row ∈ rows, row.Sets R) :
    ComesTo (fun _ => True) (FailsOnly R) (screen.showTable title rows) := by
  refine (comesTo_tableLines htitle hrows).bind fun ls hls => ?_
  refine (comesTo_mapM_uncut fun l hl => comesTo_crop (hls l hl)).bind fun ls hls => ?_
  refine comesTo_put hstrict fun c hc => ?_
  obtain ⟨l, hl, hc⟩ := List.mem_flatMap.1 hc
  rcases List.mem_append.1 hc with hc | hc
  · exact hls l hl c hc
  · exact List.mem_singleton.1 hc ▸ admitted_chr (by decide)

/-! ## The fields of a model -/

variable {model : Text} {fields : List Field} {e : MarkupError}

theorem exists_of_bind_eq_ok {α β ε : Type} {x : Except ε α} {f : α → Except ε β} {b : β}
    (h : x >>= f = .ok b) : ∃ a, x = .ok a ∧ f a = .ok b := by
  cases x with
  | error e => cases h
  | ok a => exact ⟨a, rfl, h⟩

theorem exists_of_mapM_eq_ok {α β ε : Type} {f : α → Except ε β} {xs : List α} {ys : List β}
    (h : xs.mapM f = .ok ys) {x : α} (hx : x ∈ xs) : ∃ y, f x = .ok y := by
  obtain ⟨y, -, hy⟩ := exists_mem_of_forall₂ (mapM_eq_ok_iff.1 h).flip hx
  exact ⟨y, hy⟩

/-- The texts that are read as markup for a table: names, references and the title. -/
def markups (model : Text) (fields : List Field) : List Text :=
  fields.map Field.name ++ fields.map referenceCell ++ [model ++ " fields".text]

theorem name_mem_markups {f : Field} (hf : f ∈ fields) : f.name ∈ markups model fields :=
  List.mem_append_left _ (List.mem_append_left _ (List.mem_map_of_mem hf))

theorem reference_mem_markups {f : Field} (hf : f ∈ fields) :
    referenceCell f ∈ markups model fields :=
  List.mem_append_left _ (List.mem_append_right _ (List.mem_map_of_mem hf))

theorem title_mem_markups : model ++ " fields".text ∈ markups model fields :=
  List.mem_append_right _ (List.mem_singleton_self _)

/-- What there can be about some texts that are read as markup. -/
def Screen.marked (screen : Screen) (ms : List Text) : Reasons where
  style := ∃ m ∈ ms, ∃ t, render screen.emoji m = .ok t ∧ ∃ x ∈ t.spans, isUnreadable x.style = true
  joiner := ∃ m ∈ ms, ∃ t, render screen.emoji m = .ok t ∧ Text.joiner ∈ t.text
  surrogate := ∃ m ∈ ms, m.isUnicode = false
  strict := screen.isStrict = true

/-- Why reading one of some texts or laying it out goes wrong. -/
def IsFaultOf (screen : Screen) (ms : List Text) (e : MarkupError) : Prop :=
  (∃ m ∈ ms, render screen.emoji m = .error e) ∨ FailsOnly (screen.marked ms) e

variable {ms : List Text}

/-- What is read from one of the texts can be laid out, as far as there is nothing about it. -/
theorem comesTo_render {m : Text} (hm : m ∈ ms) :
    ComesTo (Sets (screen.marked ms)) (IsFaultOf screen ms) (render screen.emoji m) := by
  cases hread : render screen.emoji m with
  | error e => exact .inl ⟨m, hm, hread⟩
  | ok t =>
      refine ⟨fun c hc => ⟨?_, fun hsurrogate => ⟨m, hm, ?_⟩⟩, fun x hx hunreadable =>
        ⟨m, hm, t, hread, x, hx, hunreadable⟩⟩
      · rintro rfl
        exact ⟨m, hm, t, hread, hc⟩
      · exact isUnicode_eq_false_of_mem_render hread hc hsurrogate

theorem comesTo_rows (hnames : ∀ f ∈ fields, f.name ∈ ms)
    (hreferences : ∀ f ∈ fields, referenceCell f ∈ ms) :
    ComesTo (fun rows => ∀ row ∈ rows, row.Sets (screen.marked ms)) (IsFaultOf screen ms)
      (rows screen.emoji fields) := by
  refine (ComesTo.mapM fun f hf => comesTo_render (hnames f hf)).bind fun names hsets => ?_
  refine (ComesTo.mapM fun f hf => comesTo_render (hreferences f hf)).bind
    fun references hsets' => ?_
  show ∀ row ∈ (fields.zip (names.zip references)).map _, _
  intro row hrow
  obtain ⟨⟨f, name, reference⟩, hzip, rfl⟩ := List.mem_map.1 hrow
  obtain ⟨-, hzip⟩ := List.of_mem_zip hzip
  obtain ⟨hname, hreference⟩ := List.of_mem_zip hzip
  have hword : Console.Sets (screen.marked ms) ⟨f.type.word.text, []⟩ := by
    cases f.type.word <;> exact sets_of_not_mem (by decide) (by decide)
  have harray : Console.Sets (screen.marked ms)
      ⟨if f.isArray then "yes".text else "no".text, []⟩ := by
    split <;> exact sets_of_not_mem (by decide) (by decide)
  simp only [Row.Sets, Row.cells, List.forall_mem_cons]
  exact ⟨hsets name hname, hword, harray, hsets' reference hreference, by simp⟩

/-- **Why a table cannot be shown**: a text has a faulty tag, or a style that cannot be read, or
what is read in it has a joiner and cannot be cut, or it has a surrogate and the screen is
strict. -/
theorem isFaultOf_fieldsTable (h : screen.fieldsTable model fields = .error e) :
    IsFaultOf screen (markups model fields) e := by
  have htable : ComesTo (fun _ => True) (IsFaultOf screen (markups model fields))
      (screen.fieldsTable model fields) := by
    refine (comesTo_rows (fun f => name_mem_markups) fun f => reference_mem_markups).bind
      fun rows hrows => (comesTo_render title_mem_markups).bind fun title htitle => ?_
    exact (comesTo_showTable id htitle hrows).mono (fun _ => id) fun _ => .inr
  rwa [h] at htable

/-- Where a table is shown, all of its texts could be read. -/
theorem exists_render_of_fieldsTable {table m : Text}
    (h : screen.fieldsTable model fields = .ok table) (hm : m ∈ markups model fields) :
    ∃ t, render screen.emoji m = .ok t := by
  obtain ⟨rows', hrows, h⟩ := exists_of_bind_eq_ok h
  obtain ⟨names, hnames, hrows⟩ := exists_of_bind_eq_ok hrows
  obtain ⟨references, hreferences, -⟩ := exists_of_bind_eq_ok hrows
  obtain ⟨title, htitle, -⟩ := exists_of_bind_eq_ok h
  simp only [markups, List.mem_append, List.mem_map, List.mem_singleton] at hm
  rcases hm with (⟨f, hf, rfl⟩ | ⟨f, hf, rfl⟩) | rfl
  · exact exists_of_mapM_eq_ok hnames hf
  · exact exists_of_mapM_eq_ok hreferences hf
  · exact ⟨title, htitle⟩

/-! ## Literal tables -/

/-- The row of a field whose texts are taken literally. -/
def plainRow (f : Field) : Row where
  name := plain f.name
  type := ⟨f.type.word.text, []⟩
  array := ⟨if f.isArray then "yes".text else "no".text, []⟩
  reference := plain (referenceCell f)

/-- The table of a model's fields with all texts taken literally. -/
def Screen.plainTable (screen : Screen) (model : Text) (fields : List Field) :
    Except MarkupError Text :=
  screen.showTable (plain (model ++ " fields".text)) (fields.map plainRow)

/-- The texts of a table are literal if the name of the model and those of the fields and their
references are. -/
theorem forall_isLiteral_markups_iff {emoji : EmojiTable} :
    (∀ m ∈ markups model fields, IsLiteral emoji m) ↔ IsLiteral emoji model ∧
      ∀ f ∈ fields, IsLiteral emoji f.name ∧ IsLiteral emoji f.reference := by
  have hdash : IsLiteral emoji [chr '-'] :=
    (isLiteral_append_iff (s := []) (by decide) (by decide) (by decide)).2 isLiteral_nil
  have hreference : ∀ f : Field,
      IsLiteral emoji (referenceCell f) ↔ IsLiteral emoji f.reference := by
    intro f
    unfold referenceCell
    split
    · rename_i hnone
      rw [hnone]
      exact iff_of_true hdash isLiteral_nil
    · exact Iff.rfl
  simp only [markups, List.forall_mem_append, List.forall_mem_map, List.forall_mem_singleton,
    hreference, isLiteral_append_iff (s := model) (t := " fields".text) (by decide) (by decide)
      (by decide)]
  exact ⟨fun ⟨⟨hnames, hrefs⟩, hmodel⟩ => ⟨hmodel, fun f hf => ⟨hnames f hf, hrefs f hf⟩⟩,
    fun ⟨hmodel, hf⟩ => ⟨⟨fun f h => (hf f h).1, fun f h => (hf f h).2⟩, hmodel⟩⟩

/-- What there can be about texts that are taken literally. -/
def Screen.literal (screen : Screen) (ms : List Text) : Reasons where
  style := False
  joiner := ∃ m ∈ ms, Text.joiner ∈ m
  surrogate := ∃ m ∈ ms, m.isUnicode = false
  strict := screen.isStrict = true

variable (hemoji : screen.emoji.IsColonFree)

include hemoji

/-- **A table of literal texts shows them as they are.** -/
theorem fieldsTable_of_literal (h : ∀ m ∈ markups model fields, IsLiteral screen.emoji m) :
    screen.fieldsTable model fields = screen.plainTable model fields := by
  have hread : ∀ {g : Field → Text}, (∀ f ∈ fields, g f ∈ markups model fields) →
      fields.mapM (fun f => render screen.emoji (g f)) = .ok (fields.map fun f => plain (g f)) := by
    intro g hg
    rw [mapM_eq_ok_iff, List.forall₂_map_right_iff, List.forall₂_same]
    exact fun f hf => (render_eq_plain_iff hemoji).2 (h _ (hg f hf))
  have hrows : rows screen.emoji fields = .ok (fields.map plainRow) := by
    have hzip : fields.zip ((fields.map fun f => plain f.name).zip
        (fields.map fun f => plain (referenceCell f))) =
          fields.map fun f => (f, plain f.name, plain (referenceCell f)) := by
      have hfields := List.zip_map' (f := id) (l := fields)
        (g := fun f : Field => (plain f.name, plain (referenceCell f)))
      rw [List.map_id] at hfields
      rw [List.zip_map', hfields]
      rfl
    unfold rows
    rw [hread fun f => name_mem_markups, hread fun f => reference_mem_markups]
    show Except.ok ((fields.zip ((fields.map _).zip (fields.map _))).map _) = _
    rw [hzip, List.map_map]
    rfl
  rw [Screen.fieldsTable, hrows, (render_eq_plain_iff hemoji).2 (h _ title_mem_markups)]
  rfl

/-- Only what there is about its texts can go wrong in it. -/
theorem failsOnly_of_fieldsTable (h : ∀ m ∈ markups model fields, IsLiteral screen.emoji m)
    (he : screen.fieldsTable model fields = .error e) :
    FailsOnly (screen.literal (markups model fields)) e := by
  have hread : ∀ m ∈ markups model fields, render screen.emoji m = .ok (plain m) := fun m hm =>
    (render_eq_plain_iff hemoji).2 (h m hm)
  rcases isFaultOf_fieldsTable he with ⟨m, hm, hfaulty⟩ | hfails
  · exact absurd ((hread m hm).symm.trans hfaulty) (by simp)
  cases hfails with
  | unreadableStyle hstyle =>
      obtain ⟨m, hm, t, ht, x, hx, -⟩ := hstyle
      obtain rfl := Except.ok.inj ((hread m hm).symm.trans ht)
      simp [plain] at hx
  | uncut hjoiner =>
      obtain ⟨m, hm, t, ht, hmem⟩ := hjoiner
      obtain rfl := Except.ok.inj ((hread m hm).symm.trans ht)
      exact .uncut ⟨m, hm, List.mem_of_mem_filter hmem⟩
  | unencodable hsurrogate hstrict => exact .unencodable hsurrogate hstrict

end Scaffold.Console
