/-
# Scaffold.Proofs.Artifact.FieldLines -- the fields of a controller, line by line

A controller copies the fields of a model twice: as entries of an object when a document is created,
and as assignments when it is updated. `blocks_list_fields` says that both list every field on a
line of its own, in order. Behind every entry but the last stands a comma; the assignments end
themselves.

A name stands in its line two or four times, without quotes, so nothing in the line says where it
begins or ends. The length of the line does: what stands around the names is always the same, so
lines of one length have names of one length, and the first of them begins behind the indentation
or the name of the document (`createEntry_eq_iff`, `updateEntry_eq_iff`). So each of the two blocks
tells the names of its fields, and tells nothing else about them.
-/

import Scaffold.Artifact.Block
import Scaffold.Proofs.Text.Lines

namespace Scaffold.Artifact

open Text (lines lines_join lines_flatMap join_append_newline punctuated length_punctuated
  getElem?_punctuated mem_punctuated punctuated_injective joinWith_eq_join_punctuated)

variable {depth : Int} {document : Text} {fields : List Field}

/-! ## Single lines -/

theorem not_mem_indent {c : CodePoint} (hc : c ≠ ' ') (depth : Int) : c ∉ indent depth := by
  intro hmem
  exact hc (List.eq_of_mem_replicate hmem)

/-- An entry holds the name of its field and a few characters around it. -/
theorem not_mem_createEntry {f : Field} {c : CodePoint} (hc : c ∉ " : req.body.".text)
    (hname : c ∉ f.name) : c ∉ createEntry depth f := by
  have hspace : c ≠ ' ' := by
    rintro rfl
    exact hc (by decide)
  simp only [createEntry, List.mem_append, not_or]
  exact ⟨⟨⟨not_mem_indent hspace depth, hname⟩, hc⟩, hname⟩

/-- An assignment holds the names of the document and the field and a few characters around them. -/
theorem not_mem_updateEntry {f : Field} {c : CodePoint} (hc : c ∉ " = req.body. ? : ;".text)
    (hdocument : c ∉ document) (hname : c ∉ f.name) : c ∉ updateEntry depth document f := by
  have hpart {s : Text} (hs : s ⊆ " = req.body. ? : ;".text) : c ∉ s :=
    fun hmem => hc (hs hmem)
  have hspace : c ∉ [chr ' '] := hpart (by decide)
  have hdot : c ∉ [chr '.'] := hpart (by decide)
  have hsemicolon : c ∉ [chr ';'] := hpart (by decide)
  rw [List.mem_singleton] at hspace hdot hsemicolon
  simp only [updateEntry, List.append_assoc, List.cons_append, List.mem_append, List.mem_cons,
    not_or]
  exact ⟨not_mem_indent hspace depth, hdocument, hdot, hname, hpart (by decide), hname,
    hpart (by decide), hname, hpart (by decide), hdocument, hdot, hname, hsemicolon,
    List.not_mem_nil⟩

theorem createEntry_ne_nil (f : Field) : createEntry depth f ≠ [] := by
  simp [createEntry]

theorem updateEntry_ne_nil (f : Field) : updateEntry depth document f ≠ [] := by
  simp [updateEntry]

/-- **An entry tells the name in it**, by its length. -/
theorem createEntry_eq_iff {f g : Field} :
    createEntry depth f = createEntry depth g ↔ f.name = g.name := by
  constructor
  · intro h
    -- Nothing else in the line can be longer or shorter, so the names are of one length.
    have hlength : f.name.length = g.name.length := by
      have hlengths := congrArg List.length h
      simp only [createEntry, List.length_append] at hlengths
      omega
    simp only [createEntry, List.append_assoc] at h
    have hname := List.append_cancel_left h
    exact (List.append_inj hname hlength).1
  · intro h
    rw [createEntry, createEntry, h]

/-- **An assignment tells the name in it**, by its length. -/
theorem updateEntry_eq_iff {f g : Field} :
    updateEntry depth document f = updateEntry depth document g ↔ f.name = g.name := by
  constructor
  · intro h
    have hlength : f.name.length = g.name.length := by
      have hlengths := congrArg List.length h
      simp only [updateEntry, List.length_append, List.length_cons] at hlengths
      omega
    simp only [updateEntry, List.append_assoc, List.cons_append] at h
    have hname := List.cons.inj (List.append_cancel_left (List.append_cancel_left h))
    exact (List.append_inj hname.2 hlength).1
  · intro h
    rw [updateEntry, updateEntry, h]

/-- Maps that tell the same elements apart tell the same lists apart. -/
theorem map_eq_map_iff {α β γ : Type} {f : α → β} {g : α → γ} (h : ∀ a b, f a = f b ↔ g a = g b)
    {as bs : List α} : as.map f = bs.map f ↔ as.map g = bs.map g := by
  induction as generalizing bs with
  | nil => cases bs <;> simp
  | cons a as ih =>
      cases bs with
      | nil => simp
      | cons b bs =>
          rw [List.map_cons, List.map_cons, List.map_cons, List.map_cons, List.cons.injEq,
            List.cons.injEq, h, ih]

/-! ## Blocks -/

/-- The line feed at the edge of a block of lines. There is none where there are no lines. -/
def margin {α : Type} : List α → Text
  | [] => []
  | _ :: _ => [chr '\n']

theorem margin_map {α β : Type} (f : α → β) (as : List α) : margin (as.map f) = margin as := by
  cases as <;> rfl

theorem createBlock_eq (depth : Int) (fields : List Field) :
    createBlock depth fields =
      margin fields ++ Text.join '\n' (punctuated [chr ','] (fields.map (createEntry depth))) := by
  rw [← joinWith_eq_join_punctuated]
  cases fields <;> rfl

theorem updateBlock_eq (depth : Int) (document : Text) (fields : List Field) :
    updateBlock depth document fields =
      margin fields ++ Text.join '\n' (fields.map (updateEntry depth document)) ++
        margin fields := by
  cases fields <;> rfl

section Lines

variable (h : ∀ f ∈ fields, chr '\n' ∉ f.name)
include h

/-- Between its edges a create block has its entries for lines. -/
theorem lines_create :
    lines (Text.join '\n' (punctuated [chr ','] (fields.map (createEntry depth)))) =
      punctuated [chr ','] (fields.map (createEntry depth)) := by
  apply lines_join
  · intro line hline
    obtain ⟨entry, hentry, hpunctuated⟩ := mem_punctuated hline
    obtain ⟨f, hf, rfl⟩ := List.mem_map.1 hentry
    have hfree : chr '\n' ∉ createEntry depth f := not_mem_createEntry (by decide) (h f hf)
    rcases hpunctuated with rfl | rfl
    · exact hfree
    · exact List.not_mem_append hfree (by decide)
  · intro line hline
    obtain ⟨entry, hentry, hpunctuated⟩ := mem_punctuated hline
    obtain ⟨f, -, rfl⟩ := List.mem_map.1 hentry
    rcases hpunctuated with rfl | rfl
    · exact createEntry_ne_nil f
    · exact List.append_ne_nil_of_right_ne_nil _ (List.cons_ne_nil _ _)

/-- Every assignment is on a line of its own. -/
theorem newline_not_mem_assignments (hdocument : chr '\n' ∉ document) :
    ∀ line ∈ fields.map (updateEntry depth document), chr '\n' ∉ line := by
  intro line hline
  obtain ⟨f, hf, rfl⟩ := List.mem_map.1 hline
  exact not_mem_updateEntry (by decide) hdocument (h f hf)

/-- Between its edges an update block has its assignments for lines. -/
theorem lines_update (hdocument : chr '\n' ∉ document) :
    lines (Text.join '\n' (fields.map (updateEntry depth document))) =
      fields.map (updateEntry depth document) := by
  apply lines_join (newline_not_mem_assignments h hdocument)
  intro line hline
  obtain ⟨f, -, rfl⟩ := List.mem_map.1 hline
  exact updateEntry_ne_nil f

/-- Behind its first edge a create block has its entries for lines. -/
theorem tail_lines_createBlock :
    (lines (createBlock depth fields)).tail =
      punctuated [chr ','] (fields.map (createEntry depth)) := by
  have hlines := @lines_create depth fields h
  rw [createBlock_eq]
  cases fields with
  | nil => rfl
  | cons f fs => exact hlines

/-- Behind its first edge an update block has its assignments for lines. -/
theorem tail_lines_updateBlock (hdocument : chr '\n' ∉ document) :
    (lines (updateBlock depth document fields)).tail =
      fields.map (updateEntry depth document) := by
  have hlines := lines_flatMap (@newline_not_mem_assignments depth _ _ h hdocument)
  rw [updateBlock_eq]
  cases fields with
  | nil => rfl
  | cons f fs =>
      have hne : (f :: fs).map (updateEntry depth document) ≠ [] := List.cons_ne_nil _ _
      rw [← join_append_newline hne] at hlines
      exact hlines

variable {others : List Field} (hothers : ∀ f ∈ others, chr '\n' ∉ f.name)
include hothers

/-- **A create block tells the names of its fields** and nothing else. -/
theorem createBlock_eq_iff :
    createBlock depth fields = createBlock depth others ↔
      fields.map Field.name = others.map Field.name := by
  rw [← map_eq_map_iff (f := createEntry depth) fun f g => createEntry_eq_iff]
  constructor
  · intro heq
    apply punctuated_injective [chr ',']
    rw [← tail_lines_createBlock h, ← tail_lines_createBlock hothers, heq]
  · intro heq
    rw [createBlock_eq, createBlock_eq, ← margin_map (createEntry depth) fields,
      ← margin_map (createEntry depth) others, heq]

/-- **An update block tells the names of its fields** and nothing else. -/
theorem updateBlock_eq_iff (hdocument : chr '\n' ∉ document) :
    updateBlock depth document fields = updateBlock depth document others ↔
      fields.map Field.name = others.map Field.name := by
  rw [← map_eq_map_iff (f := updateEntry depth document) fun f g => updateEntry_eq_iff]
  constructor
  · intro heq
    rw [← tail_lines_updateBlock h hdocument, ← tail_lines_updateBlock hothers hdocument, heq]
  · intro heq
    rw [updateBlock_eq, updateBlock_eq, ← margin_map (updateEntry depth document) fields,
      ← margin_map (updateEntry depth document) others, heq]

end Lines

/-! ## Both blocks -/

/-- **The blocks of a controller list the fields.** Between its edges, which are there if there is
any field, the create block has one line for each field, in order: the entry of the field, with a
comma behind it where it is not the last. Between its edges the update block has one line for each
field, in order: its assignment. And each block is the same for two lists of fields exactly when
these have the same names in the same order. No name holds a line feed, and neither does the name of
the document; the depth may be anything. -/
theorem blocks_list_fields (depth : Int) {document : Text} (hdocument : chr '\n' ∉ document)
    {fields : List Field} (h : ∀ f ∈ fields, chr '\n' ∉ f.name) :
    (∃ body, createBlock depth fields = margin fields ++ body ∧
      (lines body).length = fields.length ∧
      ∀ (i : Nat) (f : Field), fields[i]? = some f → (lines body)[i]? =
        some (createEntry depth f ++ if i + 1 = fields.length then [] else [chr ','])) ∧
    (∃ body, updateBlock depth document fields = margin fields ++ body ++ margin fields ∧
      (lines body).length = fields.length ∧
      ∀ (i : Nat) (f : Field), fields[i]? = some f →
        (lines body)[i]? = some (updateEntry depth document f)) ∧
    ∀ others : List Field, (∀ f ∈ others, chr '\n' ∉ f.name) →
      (createBlock depth fields = createBlock depth others ↔
        fields.map Field.name = others.map Field.name) ∧
      (updateBlock depth document fields = updateBlock depth document others ↔
        fields.map Field.name = others.map Field.name) := by
  refine ⟨⟨_, createBlock_eq depth fields, ?_, ?_⟩,
    ⟨_, updateBlock_eq depth document fields, ?_, ?_⟩, ?_⟩
  · rw [lines_create h, length_punctuated, List.length_map]
  · intro i f hf
    rw [lines_create h, getElem?_punctuated, List.getElem?_map, hf, List.length_map]
    rfl
  · rw [lines_update h hdocument, List.length_map]
  · intro i f hf
    rw [lines_update h hdocument, List.getElem?_map, hf]
    rfl
  · intro others hothers
    exact ⟨createBlock_eq_iff h hothers, updateBlock_eq_iff h hothers hdocument⟩

/-- A name that ends in a comma has its own comma and the one behind its entry, and is told from the
name without. There is no indentation below the first level. -/
theorem blocks_list_fields_of_comma :
    let fields : List Field := [⟨"a,".text, .string, false⟩, ⟨"b".text, .date, true⟩]
    let others : List Field := [⟨"a".text, .string, false⟩, ⟨"b".text, .date, true⟩]
    (chr '\n' ∉ "post.a".text ∧ (∀ f ∈ fields, chr '\n' ∉ f.name) ∧
      ∀ f ∈ others, chr '\n' ∉ f.name) ∧
    (∃ body, createBlock (-1) fields = chr '\n' :: body ∧ (lines body).length = 2 ∧
      (lines body)[0]? = some "a, : req.body.a,,".text) ∧
    (∃ body, updateBlock (-1) "post.a".text fields = chr '\n' :: body ++ [chr '\n'] ∧
      (lines body).length = 2) ∧
    createBlock (-1) fields ≠ createBlock (-1) others ∧
    updateBlock (-1) "post.a".text fields ≠ updateBlock (-1) "post.a".text others := by
  intro fields others
  have hdocument : chr '\n' ∉ "post.a".text := by decide
  have hfields : ∀ f ∈ fields, chr '\n' ∉ f.name := by decide
  have hothers : ∀ f ∈ others, chr '\n' ∉ f.name := by decide
  have hdiffer : fields.map Field.name ≠ others.map Field.name := by decide
  obtain ⟨⟨created, hcreate, hcount, hline⟩, ⟨updated, hupdate, hassignments, -⟩, htell⟩ :=
    blocks_list_fields (-1) hdocument hfields
  obtain ⟨hcreated, hupdated⟩ := htell others hothers
  refine ⟨⟨hdocument, hfields, hothers⟩, ⟨created, hcreate, hcount, hline 0 _ rfl⟩,
    ⟨updated, hupdate, hassignments⟩, ?_, ?_⟩
  · intro heq
    exact hdiffer (hcreated.1 heq)
  · intro heq
    exact hdiffer (hupdated.1 heq)

end Scaffold.Artifact
