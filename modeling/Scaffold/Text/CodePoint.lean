/-
# Scaffold.Text.CodePoint -- what texts are made of

A text is a list of code points. Most of them are characters, but a text that comes from outside can
also hold surrogates by themselves: a byte of an argument that is no UTF-8 becomes one, and so does
half of an escaped pair. A surrogate is no character. It can be compared, cut at, carried and
written down by its number, but no encoding has bytes for it, so it turns up in the end as a failure
to write. `chr` is the code point of a character, and characters are taken for code points where
these are wanted.
-/

namespace Scaffold

/-- A code point: a character, or a surrogate by itself. -/
inductive CodePoint where
  | chr (c : Char)
  /-- The surrogate with the given place among the surrogates, which begin at `U+D800`. -/
  | surrogate (n : Fin 0x800)
  deriving DecidableEq, Repr

export CodePoint (chr)

namespace CodePoint

instance : Coe Char CodePoint := ⟨chr⟩

instance : Inhabited CodePoint := ⟨chr default⟩

/-! ## Numbers -/

/-- The number of a code point. -/
def toNat : CodePoint → Nat
  | chr c => c.toNat
  | surrogate n => 0xD800 + n

/-- Code points stand in the order of their numbers. -/
instance : LE CodePoint := ⟨fun c d => c.toNat ≤ d.toNat⟩

instance (c d : CodePoint) : Decidable (c ≤ d) := inferInstanceAs (Decidable (c.toNat ≤ d.toNat))

/-! ## Classes -/

/-- Whether a code point is a surrogate. -/
def isSurrogate : CodePoint → Bool
  | chr _ => false
  | surrogate _ => true

@[simp] theorem isSurrogate_chr (c : Char) : (chr c).isSurrogate = false := rfl

/-- Whether a code point is one of a class of characters. -/
def isChar (isMember : Char → Bool) : CodePoint → Bool
  | chr c => isMember c
  | surrogate _ => false

/-- The code point with its character replaced. -/
def mapChar (f : Char → Char) : CodePoint → CodePoint
  | chr c => chr (f c)
  | surrogate n => surrogate n

/-- Whether a code point is a digit of ASCII. -/
def isDigit : CodePoint → Bool := isChar Char.isDigit

/-- Whether a code point is a letter of ASCII. -/
def isAlpha : CodePoint → Bool := isChar Char.isAlpha

/-- Whether a code point is a letter or a digit of ASCII. -/
def isAlphanum : CodePoint → Bool := isChar Char.isAlphanum

/-- The lower case of a letter of ASCII. -/
def toLower : CodePoint → CodePoint := mapChar Char.toLower

/-- The upper case of a letter of ASCII. -/
def toUpper : CodePoint → CodePoint := mapChar Char.toUpper

end CodePoint

/-- A text, code point by code point. -/
abbrev Text := List CodePoint

/-- Whether a text has characters only. -/
def Text.isUnicode (s : Text) : Bool := s.all fun c => !c.isSurrogate

@[simp] theorem Text.isUnicode_nil : Text.isUnicode [] = true := rfl

@[simp] theorem Text.isUnicode_cons (c : CodePoint) (s : Text) :
    Text.isUnicode (c :: s) = (!c.isSurrogate && Text.isUnicode s) := rfl

@[simp] theorem Text.isUnicode_append (s t : Text) :
    Text.isUnicode (s ++ t) = (Text.isUnicode s && Text.isUnicode t) := List.all_append

@[simp] theorem Text.isUnicode_map_chr (s : List Char) : Text.isUnicode (s.map chr) = true := by
  rw [isUnicode, List.all_map]
  exact List.all_eq_true.2 fun _ _ => rfl

/-- A text is not made of characters only if a surrogate stands in it. -/
theorem Text.isUnicode_eq_false_iff {s : Text} :
    Text.isUnicode s = false ↔ ∃ c ∈ s, c.isSurrogate = true := by
  simp [isUnicode]

theorem Text.isUnicode_of_subset {s t : Text} (h : Text.isUnicode t = true) (hsub : s ⊆ t) :
    Text.isUnicode s = true :=
  List.all_eq_true.2 fun c hc => List.all_eq_true.1 h c (hsub hc)

end Scaffold

/-- The text of a string, which has characters only. -/
@[reducible] def String.text (s : String) : Scaffold.Text := s.toList.map Scaffold.CodePoint.chr

@[simp] theorem String.text_eq_map (s : String) :
    s.text = s.toList.map Scaffold.CodePoint.chr := rfl

theorem String.text_inj {s t : String} : s.text = t.text ↔ s = t := by
  rw [String.text, String.text, List.map_inj_right (fun _ _ => Scaffold.CodePoint.chr.inj),
    String.toList_inj]
