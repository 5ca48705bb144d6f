import GuardedDispatch.Policy.Failure

/-!
# Words in texts

A word is found in a text that is put together from parts with separators in between exactly if it
is found in one of the parts, where the separators are no part of the word.
-/

namespace GuardedDispatch

/-! ### Words and separators -/

private theorem isPrefixOf_append_cons {word : List Char} {sep : Char} (h : sep ∉ word)
    (a b : List Char) : word.isPrefixOf (a ++ sep :: b) = word.isPrefixOf a := by
  induction word generalizing a with
  | nil => rfl
  | cons c word ih =>
    obtain ⟨hc, hword⟩ := List.ne_and_not_mem_of_not_mem_cons h
    cases a with
    | nil =>
      change ((c == sep) && _) = false
      rw [beq_eq_false_iff_ne.mpr hc.symm, Bool.false_and]
    | cons d a =>
      rw [List.cons_append, List.isPrefixOf_cons_cons, List.isPrefixOf_cons_cons, ih hword]

private theorem occursIn_append_cons {word : List Char} {sep : Char} (hne : word ≠ [])
    (h : sep ∉ word)
    (a b : List Char) : occursIn word (a ++ sep :: b) = (occursIn word a || occursIn word b) := by
  have hnil : word.isEmpty = false := List.isEmpty_eq_false_iff.mpr hne
  induction a with
  | nil =>
    have hprefix : word.isPrefixOf (sep :: b) = false := by
      rw [← List.nil_append (sep :: b), isPrefixOf_append_cons h]
      cases word with
      | nil => exact absurd rfl hne
      | cons c word => rfl
    rw [List.nil_append, occursIn, occursIn, hprefix, hnil]
  | cons c a ih =>
    rw [List.cons_append, occursIn, occursIn, ih, ← List.cons_append, isPrefixOf_append_cons h,
      Bool.or_assoc]

private theorem subset_of_occursIn {word hay : List Char} (h : occursIn word hay = true) :
    word ⊆ hay := by
  induction hay with
  | nil =>
    rw [List.isEmpty_iff.mp h]
    exact List.Subset.refl _
  | cons c rest ih =>
    rw [occursIn, Bool.or_eq_true, List.isPrefixOf_iff_prefix] at h
    obtain hbegins | hlater := h
    · exact hbegins.subset
    · exact List.subset_cons_of_subset c (ih hlater)

/-! ### Durations -/

/-- The characters that durations are written with. -/
def isElapsedChar (c : Char) : Bool := c.isDigit || "nms.".toList.contains c

private theorem isElapsedChar_of_isDigit {c : Char} (h : c.isDigit = true) :
    isElapsedChar c = true := by
  rw [isElapsedChar, h, Bool.true_or]

private theorem isElapsedChar_of_mem_toString {n : Nat} {c : Char} (h : c ∈ (toString n).toList) :
    isElapsedChar c = true := by
  rw [Nat.toString_eq_ofList_toDigits, String.toList_ofList] at h
  exact isElapsedChar_of_isDigit (Nat.isDigit_of_mem_toDigits (by decide) (by decide) h)

private theorem isElapsedChar_of_mem_places {width n : Nat} {c : Char}
    (h : c ∈ Text.dropTrailingZeros (Number.padded width n).toList) : isElapsedChar c = true := by
  have hpadded : c ∈ (Number.padded width n).toList := by
    rw [Text.dropTrailingZeros, List.mem_reverse] at h
    exact List.mem_reverse.mp (List.dropWhile_subset _ h)
  rw [Number.padded, String.toList_ofList, List.mem_append] at hpadded
  obtain hzero | hdigit := hpadded
  · rw [List.eq_of_mem_replicate hzero]
    decide
  · exact isElapsedChar_of_isDigit (Nat.isDigit_of_mem_toDigits (by decide) (by decide) hdigit)

private theorem isElapsedChar_of_mem {ms : Nat} {c : Char} (h : c ∈ (Text.elapsedText ms).toList) :
    isElapsedChar c = true := by
  have hfixed (s : String) (hs : s.toList.all isElapsedChar = true) (hc : c ∈ s.toList) :
      isElapsedChar c = true :=
    List.all_eq_true.mp hs c hc
  unfold Text.elapsedText at h
  split at h
  · exact hfixed "0ns" (by decide) h
  · split at h
    · rw [String.toList_append, List.mem_append] at h
      exact h.elim isElapsedChar_of_mem_toString (hfixed "ms" (by decide))
    · dsimp only at h
      split at h
      · rw [String.toList_append, List.mem_append] at h
        exact h.elim isElapsedChar_of_mem_toString (hfixed "s" (by decide))
      · simp only [String.toList_append, List.mem_append, String.toList_ofList] at h
        obtain ((hwhole | hpoint) | hplaces) | hunit := h
        · exact isElapsedChar_of_mem_toString hwhole
        · exact hfixed "." (by decide) hpoint
        · exact isElapsedChar_of_mem_places hplaces
        · exact hfixed "s" (by decide) hunit

private theorem toLower_of_isDigit {c : Char} (h : c.isDigit = true) : c.toLower = c := by
  simp only [Char.isDigit, Bool.and_eq_true, decide_eq_true_eq] at h
  exact dif_neg fun hupper ↦ absurd (UInt32.le_trans hupper.1 h.2) (by decide)

private theorem toLower_of_isElapsedChar {c : Char} (h : isElapsedChar c = true) :
    c.toLower = c := by
  rw [isElapsedChar, Bool.or_eq_true] at h
  obtain hdigit | hletter := h
  · exact toLower_of_isDigit hdigit
  · have hlow : "nms.".toList.all (fun c ↦ c.toLower == c) = true := rfl
    exact beq_iff_eq.mp (List.all_eq_true.mp hlow c (List.contains_iff_mem.mp hletter))

private theorem map_toLower_elapsedText (ms : Nat) :
    (Text.elapsedText ms).toList.map Char.toLower = (Text.elapsedText ms).toList := by
  rw [List.map_congr_left fun c hc ↦ toLower_of_isElapsedChar (isElapsedChar_of_mem hc)]
  exact List.map_id' _

/-! ### The words that speak against another attempt -/

/-- The words whose mention in a message speaks against another attempt. -/
def finalWords : List String := ["validation", "authentication"]

/-- Whether a text has one of the words that speak against another attempt. -/
def soundsFinal (s : String) : Bool := finalWords.any (mentions · s)

private theorem toLower_message_timedOut {ε : Type} (text : ε → String) (name : String)
    (after : Nat) :
    ((PolicyFailure.timedOut (name ++ "-time-limiter") after).message text).toList.map Char.toLower =
      "time limiter ".toList ++ '\'' :: (name.toList.map Char.toLower ++ '-' ::
        ("time-limiter' expired after".toList ++ ' ' :: (Text.elapsedText after).toList)) := by
  have hmessage : (PolicyFailure.timedOut (ε := ε) (name ++ "-time-limiter") after).message text =
      "time limiter '" ++ (name ++ "-time-limiter") ++ "' expired after " ++
        Text.elapsedText after :=
    rfl
  have hbefore : "time limiter '".toList.map Char.toLower = "time limiter ".toList ++ ['\''] := by
    decide
  have hkind : "-time-limiter".toList.map Char.toLower = '-' :: "time-limiter".toList := by decide
  have hafter : "' expired after ".toList.map Char.toLower =
      "' expired after".toList ++ [' '] := by
    decide
  have hjoined : "time-limiter' expired after".toList =
      "time-limiter".toList ++ "' expired after".toList := by
    decide
  rw [hmessage]
  simp only [String.toList_append, List.map_append, hbefore, hkind, hafter, hjoined,
    map_toLower_elapsedText, List.append_assoc, List.cons_append, List.nil_append]

private theorem mentions_message_timedOut {ε : Type} {word : String} (h : word ∈ finalWords)
    (text : ε → String) (name : String) (after : Nat) :
    mentions word ((PolicyFailure.timedOut (name ++ "-time-limiter") after).message text) =
      mentions word name := by
  obtain ⟨hne, hquote, hdash, hspace, hbefore, hkind, ha⟩ :=
    (by decide : ∀ word ∈ finalWords, word.toList ≠ [] ∧ '\'' ∉ word.toList ∧ '-' ∉ word.toList ∧
      ' ' ∉ word.toList ∧ occursIn word.toList "time limiter ".toList = false ∧
      occursIn word.toList "time-limiter' expired after".toList = false ∧ 'a' ∈ word.toList) word h
  have hafter : occursIn word.toList (Text.elapsedText after).toList = false := by
    refine Bool.eq_false_iff.mpr fun hoccurs ↦ ?_
    exact absurd (isElapsedChar_of_mem (subset_of_occursIn hoccurs ha)) (by decide)
  rw [mentions, mentions, toLower_message_timedOut, occursIn_append_cons hne hquote,
    occursIn_append_cons hne hdash, occursIn_append_cons hne hspace, hbefore, hkind, hafter,
    Bool.false_or, Bool.or_false, Bool.or_false]

/-- By default a deadline that expired under a name is tried again unless the name sounds final. -/
theorem retryByDefault_timedOut {ε : Type} (text : ε → String) (name : String) (after : Nat) :
    (PolicyFailure.timedOut (name ++ "-time-limiter") after).retryByDefault text =
      !soundsFinal name := by
  have hmentions {word : String} (h : word ∈ finalWords) :=
    mentions_message_timedOut h text name after
  rw [PolicyFailure.retryByDefault, hmentions (List.mem_cons_self),
    hmentions (List.mem_cons_of_mem _ List.mem_cons_self), soundsFinal, finalWords,
    List.any_cons, List.any_cons, List.any_nil, Bool.or_false]
  rfl

end GuardedDispatch
