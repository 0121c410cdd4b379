/-
# Scaffold.Proofs.Artifact.Naming -- the names that a controller declares

A controller declares a name for the model that it imports, for a document, for a list of documents
and, in TypeScript, for itself. Its templates declare no other names by placeholders
(`declared_bundled`), and all four are made from the name of the model: by a capital letter and an
ending, as it is, as a plural, and by another ending. They are different whatever the model is
called, as long as it has a name at all (`controller_names_differ`), and so none of them shadows
another.

Two measures tell them apart. A name with something behind it is longer than the name alone, also
where the capital letter is several characters or the plural takes the place of the last one. And
the names with an ending differ in their last characters.
-/

import Scaffold.Artifact.Render
import Scaffold.Template.Bundled
import Scaffold.Proofs.Template.Filling

namespace Scaffold

/-! ## Endings -/

namespace Text

variable {s t u v : Text}

/-- What is as long as a text is another one with something behind it. -/
theorem append_ne_of_length_le (h : s.length ≤ t.length) (hu : u ≠ []) : t ++ u ≠ s := by
  intro heq
  have hlength := congrArg List.length heq
  have hpos : 0 < u.length := List.length_pos_iff.2 hu
  rw [List.length_append] at hlength
  omega

/-- Texts differ where their endings have different last characters. -/
theorem append_ne_append_of_getLast?_ne (hu : u ≠ []) (hv : v ≠ [])
    (h : u.getLast? ≠ v.getLast?) : s ++ u ≠ t ++ v := by
  intro heq
  have hlast := congrArg List.getLast? heq
  rw [List.getLast?_append_of_ne_nil s hu, List.getLast?_append_of_ne_nil t hv] at hlast
  exact h hlast

theorem plural_ne_self (h : s ≠ []) : plural s ≠ s := by
  obtain ⟨stem, ending, -, -, -, hlength⟩ := exists_plural_eq h
  exact fun heq => Nat.lt_irrefl _ (heq ▸ hlength)

/-- A plural differs from every name whose ending has another last character than `s`. -/
theorem plural_ne_append (h : s ≠ []) (hu : u ≠ []) (hlast : u.getLast? ≠ some (chr 's')) :
    plural s ≠ t ++ u := by
  have hendings : ∀ e ∈ pluralEndings, e ≠ [] ∧ e.getLast? = some (chr 's') := by decide
  obtain ⟨stem, ending, hmem, hplural, -, -⟩ := exists_plural_eq h
  obtain ⟨hne, hs⟩ := hendings ending hmem
  rw [hplural]
  exact append_ne_append_of_getLast?_ne hne hu fun heq => hlast (heq ▸ hs)

end Text

namespace Artifact

open Template (bundled controllerPlain controllerTyped filledPiece flatMap_filledPiece_chars lines
  pieces)

/-! ## Declarations -/

/-- The words behind which a program declares a name. -/
def declaringWords : List Text := ["var ", "const ", "import "].map String.text

/-- The placeholders by which pieces declare names, given the text right in front of them, read
backwards. -/
def declaredFrom (before : Text) : List Piece → List Placeholder
  | [] => []
  | .char c :: ps => declaredFrom (c :: before) ps
  | .hole p :: ps =>
    if declaringWords.any fun word => word.reverse.isPrefixOf before then
      p :: declaredFrom [] ps
    else declaredFrom [] ps

/-- The placeholders by which a template declares names, in their order. -/
def declared (template : Text) : List Placeholder := declaredFrom [] (pieces template)

/-- What declares a name in pieces is a declaring word with the placeholder right behind it. -/
theorem exists_infix_of_mem_declaredFrom {before : Text} {ps : List Piece} {p : Placeholder}
    (h : p ∈ declaredFrom before ps) :
    ∃ word ∈ declaringWords,
      word.map Piece.char ++ [.hole p] <:+: before.reverse.map Piece.char ++ ps := by
  induction ps generalizing before with
  | nil => simp [declaredFrom] at h
  | cons piece ps ih =>
      cases piece with
      | char c =>
          obtain ⟨word, hword, hinfix⟩ := ih h
          refine ⟨word, hword, ?_⟩
          rwa [List.reverse_cons, List.map_append, List.append_assoc] at hinfix
      | hole q =>
          have hrest : p ∈ declaredFrom [] ps → ∃ word ∈ declaringWords,
              word.map Piece.char ++ [.hole p] <:+:
                before.reverse.map Piece.char ++ .hole q :: ps := by
            intro hp
            obtain ⟨word, hword, hinfix⟩ := ih hp
            refine ⟨word, hword, hinfix.trans ?_⟩
            exact ((List.suffix_cons (.hole q) ps).trans (List.suffix_append _ _)).isInfix
          rw [declaredFrom] at h
          split at h
          · rename_i hdeclares
            rcases List.mem_cons.1 h with rfl | h
            · obtain ⟨word, hword, hbefore⟩ := List.any_eq_true.1 hdeclares
              obtain ⟨front, hfront⟩ := List.isPrefixOf_iff_prefix.1 hbefore
              refine ⟨word, hword, front.reverse.map Piece.char, ps, ?_⟩
              rw [← hfront, List.reverse_append, List.reverse_reverse, List.map_append]
              simp
            · exact hrest h
          · exact hrest h

/-- The placeholders of the names of a controller: of the model that it imports, of a document, of
the list of documents, and of the controller itself. -/
def namePlaceholders : List Placeholder := [.modelName, .name, .pluralName, .controllerName]

/-- A controller declares a list in one function and a document in three. The one in TypeScript has
a name of its own, the one in JavaScript is exported without. -/
theorem declared_bundled (l : Language) :
    declared (bundled controller l) =
      match l with
      | .plain => [.modelName, .pluralName, .name, .name, .name]
      | .typed => [.modelName, .controllerName, .pluralName, .name, .name, .name] := by
  cases l
  all_goals
    simp only [bundled, controllerPlain, controllerTyped, lines, List.flatMap_cons,
      List.flatMap_nil, String.text]
    -- A literal is the text of its characters. To evaluate `toList` would be to decode it.
    repeat rw [String.toList_ofList]
    decide +kernel

/-! ## Names -/

/-- The names of a controller, as they stand in the filled template. -/
def controllerNames (r : Request) : List Text :=
  namePlaceholders.map fun p => filledPiece (controller.values r) (.hole p)

/-- **The names of a controller are different** for every model with a name. -/
theorem nodup_controllerNames {r : Request} (h : r.model ≠ []) : (controllerNames r).Nodup := by
  have hmodel : model.suffix ≠ [] := by decide
  have hcontroller : controller.suffix ≠ [] := by decide
  have hendings : model.suffix.getLast? ≠ controller.suffix.getLast? := by decide
  have himportDocument : Text.capitalized r.model ++ model.suffix ≠ r.model :=
    Text.append_ne_of_length_le (Text.length_le_capitalized r.model) hmodel
  have himportList : Text.capitalized r.model ++ model.suffix ≠ Text.plural r.model :=
    (Text.plural_ne_append h hmodel (by decide)).symm
  have himportController : Text.capitalized r.model ++ model.suffix ≠ controllerName r :=
    Text.append_ne_append_of_getLast?_ne hmodel hcontroller hendings
  have hdocumentList : r.model ≠ Text.plural r.model := (Text.plural_ne_self h).symm
  have hdocumentController : r.model ≠ controllerName r :=
    (Text.append_ne_of_length_le (Nat.le_refl _) hcontroller).symm
  have hlistController : Text.plural r.model ≠ controllerName r :=
    Text.plural_ne_append h hcontroller (by decide)
  show [Text.capitalized r.model ++ model.suffix, r.model, Text.plural r.model,
    controllerName r].Nodup
  simp [himportDocument, himportList, himportController, hdocumentList, hdocumentController,
    hlistController]

/-- **The names that a controller declares never collide**: whatever the other choices of a request
are, its model has a name exactly if the imported model, the document, the list of documents and the
controller have four different names. All four are given by the request. Wherever a template
declares a name by a placeholder, it is one of them, and it stands in the file behind the declaring
word. -/
theorem controller_names_differ (r : Request) :
    ((controllerNames r).Nodup ↔ r.model ≠ []) ∧
    (∀ p ∈ namePlaceholders, ∃ name, controller.values r p = some (.ready name)) ∧
    ∀ l, ∀ p ∈ declared (bundled controller l), p ∈ namePlaceholders ∧
      ∃ word ∈ declaringWords, word ++ filledPiece (controller.values r) (.hole p) <:+:
        (controller.render r (bundled controller l)).text := by
  refine ⟨⟨fun hnodup hmodel => ?_, nodup_controllerNames⟩, ?_, fun l p hp => ⟨?_, ?_⟩⟩
  -- Without a name of the model there is no plural either.
  · have hnames : controllerNames r = [model.suffix, [], [], controller.suffix] := by
      simp [controllerNames, namePlaceholders, filledPiece, values, controllerValues,
        controllerName, hmodel, Template.Value.text, Text.capitalized, Text.plural]
    rw [hnames] at hnodup
    exact absurd hnodup (by decide)
  · simp [namePlaceholders, values, controllerValues]
  · rw [declared_bundled] at hp
    revert p
    cases l <;> decide
  · obtain ⟨word, hword, hinfix⟩ := exists_infix_of_mem_declaredFrom hp
    have hfilled := Template.infix_fill (controller.values r) hinfix
    rw [List.flatMap_append, flatMap_filledPiece_chars, List.flatMap_singleton] at hfilled
    exact ⟨word, hword, hfilled⟩

/-- A capital letter can be two characters, and a plural can leave out the last one. -/
example : controllerNames { model := "ßy".text } =
    ["SSyModel", "ßy", "ßies", "ßyController"].map String.text := by
  decide +kernel

end Artifact

end Scaffold
