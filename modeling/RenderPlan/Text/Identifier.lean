/-! Identifiers of the shading language: an ASCII letter or underscore, then letters, digits and
underscores. Names that start with `gl_` belong to the language itself. -/
namespace RenderPlan.Text

def isIdentifierStart (c : Char) : Bool := c.isAlpha || c == '_'

def isIdentifierPart (c : Char) : Bool := c.isAlphanum || c == '_'

/-- What follows `word` at the front of a text, if the text starts with it. -/
def after? : (word text : List Char) → Option (List Char)
  | [], text => some text
  | _ :: _, [] => none
  | w :: word, c :: text => if w = c then after? word text else none

@[simp] theorem after?_append (word text : List Char) : after? word (word ++ text) = some text := by
  induction word with
  | nil => rfl
  | cons w word ih => simp [after?, ih]

theorem eq_append_of_after? {word text rest : List Char} (h : after? word text = some rest) :
    text = word ++ rest := by
  induction word generalizing text with
  | nil => simpa [after?] using h
  | cons w word ih =>
    cases text with
    | nil => simp [after?] at h
    | cons c text =>
      by_cases hw : w = c
      · subst hw
        simpa using ih (by simpa [after?] using h)
      · simp [after?, hw] at h

def isIdentifierChars : List Char → Bool
  | [] => false
  | c :: cs =>
    isIdentifierStart c && cs.all isIdentifierPart && (after? "gl_".toList (c :: cs)).isNone

def isIdentifier (name : String) : Bool := isIdentifierChars name.toList

end RenderPlan.Text
