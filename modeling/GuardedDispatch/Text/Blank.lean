/-!
# White space and blank text

The white space of Unicode, as the property of that name lists it: twenty-five code points. Text
is blank when nothing else is in it.
-/

namespace GuardedDispatch.Text

/-- The white space characters above ASCII, by code point. -/
def wideSpaces : List Nat :=
  [0x85, 0xA0, 0x1680, 0x2000, 0x2001, 0x2002, 0x2003, 0x2004, 0x2005, 0x2006, 0x2007, 0x2008,
    0x2009, 0x200A, 0x2028, 0x2029, 0x202F, 0x205F, 0x3000]

/-- Whether a character is white space: tab to carriage return, space, or a wide space. -/
def isSpace (c : Char) : Bool :=
  (0x9 ≤ c.toNat && c.toNat ≤ 0xD) || c.toNat == 0x20 || wideSpaces.contains c.toNat

/-- Every character that core counts as white space is white space here. -/
theorem isSpace_of_isWhitespace {c : Char} (h : c.isWhitespace = true) : isSpace c = true := by
  simp only [Char.isWhitespace, Bool.or_eq_true, decide_eq_true_eq] at h
  rcases h with ((h | h) | h) | h <;> subst h <;> decide

/-- Whether text has no character but white space. -/
def isBlank (s : String) : Bool := s.toList.all isSpace

/-- Empty text is blank. -/
theorem isBlank_empty : isBlank "" = true := rfl

/-- Text is blank exactly if each of its characters is white space. -/
theorem isBlank_iff (s : String) : isBlank s = true ↔ ∀ c ∈ s.toList, isSpace c = true := by
  simp [isBlank]

/-- A text that is given and not blank; blank text counts as not given. -/
def given? (s : Option String) : Option String := s.filter (fun t => !isBlank t)

/-- A given text is the text itself and is not blank. -/
theorem given?_eq_some_iff (s : Option String) (t : String) :
    given? s = some t ↔ s = some t ∧ isBlank t = false := by
  cases s with
  | none => simp [given?]
  | some u =>
    simp only [given?, Option.filter, Option.some.injEq]
    by_cases h : isBlank u = true
    · simp only [h]
      constructor
      · intro hn
        simp at hn
      · rintro ⟨rfl, ht⟩
        simp [h] at ht
    · simp only [Bool.not_eq_true] at h
      simp only [h]
      constructor
      · intro hs
        simp at hs
        subst hs
        exact ⟨rfl, h⟩
      · rintro ⟨rfl, _⟩
        simp

end GuardedDispatch.Text
