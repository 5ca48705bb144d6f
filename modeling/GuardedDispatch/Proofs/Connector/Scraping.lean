import GuardedDispatch.Connector.Metrics
import GuardedDispatch.Text.Blank
import Mathlib.Data.List.Basic

/-!
# Reading an exposition

A monitoring system reads an exposition line by line: a family begins with its help and its type and
goes on with its samples until an empty line. The reader here follows that grammar and knows nothing
about who writes the text. It reads back whatever families are written, if their names are names,
their types are known, and nothing in them looks like the end of the part that it is in.
-/

namespace GuardedDispatch

open Text

/-! ### Words -/

/-- The text before and after the first occurrence of a character. -/
def cut? (sep : Char) : List Char → Option (List Char × List Char)
  | [] => none
  | c :: rest => if c = sep then some ([], rest) else (cut? sep rest).map fun p ↦ (c :: p.1, p.2)

private theorem cut?_append_cons {sep : Char} {word : List Char} (h : sep ∉ word)
    (rest : List Char) :
    cut? sep (word ++ sep :: rest) = some (word, rest) := by
  induction word with
  | nil => exact if_pos rfl
  | cons c word ih =>
    obtain ⟨hc, hword⟩ := List.ne_and_not_mem_of_not_mem_cons h
    rw [List.cons_append, cut?, if_neg hc.symm, ih hword]
    rfl

/-- The characters of metric names. -/
def isNameChar (c : Char) : Bool := c.isAlphanum || c == '_' || c == ':'

/-- A metric name is not empty and does not begin with a digit. -/
def isMetricName (cs : List Char) : Bool :=
  !cs.isEmpty && cs.all isNameChar && !cs.head?.any Char.isDigit

/-- A word is not empty and has no white space. -/
def isWord (cs : List Char) : Bool := !cs.isEmpty && cs.all (!isSpace ·)

private theorem not_mem_of_isMetricName {name : List Char} (h : isMetricName name = true) {c : Char}
    (hc : isNameChar c = false) : c ∉ name := by
  intro hmem
  simp only [isMetricName, Bool.and_eq_true, List.all_eq_true] at h
  rw [h.1.2 c hmem] at hc
  cases hc

private theorem not_mem_of_isWord {word : List Char} (h : isWord word = true) {c : Char}
    (hc : isSpace c = true) : c ∉ word := by
  intro hmem
  simp only [isWord, Bool.and_eq_true, List.all_eq_true] at h
  have hsolid := h.2 c hmem
  rw [hc] at hsolid
  cases hsolid

/-! ### Lines -/

/-- A line of an exposition. -/
inductive ExpositionLine where
  | help (name words : String)
  | typed (name sort : String)
  | sample (name connector value : String)
  | blank
  deriving DecidableEq

/-- The types that a family can have. -/
def metricSorts : List String := ["counter", "gauge", "histogram", "summary", "untyped"]

namespace ExpositionLine

/-- A line in text. -/
def text : ExpositionLine → String
  | .help name words => "# HELP " ++ name ++ " " ++ words
  | .typed name sort => "# TYPE " ++ name ++ " " ++ sort
  | .sample name connector value => name ++ "\x7bconnector=\"" ++ connector ++ "\"\x7d " ++ value
  | .blank => ""

/-- A line that can be told from its text. -/
def WellFormed : ExpositionLine → Prop
  | .help name words => isMetricName name.toList = true ∧ '\n' ∉ words.toList
  | .typed name sort => isMetricName name.toList = true ∧ sort ∈ metricSorts
  | .sample name connector value =>
    isMetricName name.toList = true ∧ '"' ∉ connector.toList ∧ '\n' ∉ connector.toList ∧
      isWord value.toList = true
  | .blank => True

/-- Reads what follows the number sign of a help or type line. -/
def readHeading? (line : List Char) : Option ExpositionLine :=
  match line.dropPrefix? " HELP ".toList, line.dropPrefix? " TYPE ".toList with
  | some rest, _ => do
    let (name, words) ← cut? ' ' rest
    if isMetricName name then some (.help (.ofList name) (.ofList words)) else none
  | none, some rest => do
    let (name, sort) ← cut? ' ' rest
    if isMetricName name ∧ String.ofList sort ∈ metricSorts then
      some (.typed (.ofList name) (.ofList sort))
    else none
  | none, none => none

/-- Reads a sample. -/
def readSample? (line : List Char) : Option ExpositionLine := do
  let (name, rest) ← cut? '\x7b' line
  let rest ← rest.dropPrefix? "connector=\"".toList
  let (connector, rest) ← cut? '"' rest
  let value ← rest.dropPrefix? "\x7d ".toList
  if isMetricName name ∧ isWord value then
    some (.sample (.ofList name) (.ofList connector) (.ofList value))
  else none

/-- Reads a line. -/
def read? : List Char → Option ExpositionLine
  | [] => some .blank
  | '#' :: rest => readHeading? rest
  | line => readSample? line

private theorem dropPrefix?_append (pre rest : List Char) :
    (pre ++ rest).dropPrefix? pre = some rest :=
  List.dropPrefix?_append_of_beq rest (beq_self_eq_true pre)

private theorem read?_help {name words : String} (h : (help name words).WellFormed) :
    read? (help name words).text.toList = some (help name words) := by
  obtain ⟨hname, -⟩ := h
  have htext : (help name words).text.toList =
      '#' :: (" HELP ".toList ++ (name.toList ++ ' ' :: words.toList)) := by
    simp [ExpositionLine.text]
  have hcut := cut?_append_cons (not_mem_of_isMetricName hname (c := ' ') rfl) words.toList
  rw [htext, read?, readHeading?, dropPrefix?_append]
  simp [hcut, hname]

private theorem read?_typed {name sort : String} (h : (typed name sort).WellFormed) :
    read? (typed name sort).text.toList = some (typed name sort) := by
  obtain ⟨hname, hsort⟩ := h
  have htext : (typed name sort).text.toList =
      '#' :: (" TYPE ".toList ++ (name.toList ++ ' ' :: sort.toList)) := by
    simp [ExpositionLine.text]
  have hcut := cut?_append_cons (not_mem_of_isMetricName hname (c := ' ') rfl) sort.toList
  have hother (rest : List Char) : (" TYPE ".toList ++ rest).dropPrefix? " HELP ".toList = none :=
    rfl
  rw [htext, read?, readHeading?, hother, dropPrefix?_append]
  simp [hcut, hname, hsort]

private theorem read?_cons {c : Char} (h : c ≠ '#') (rest : List Char) :
    read? (c :: rest) = readSample? (c :: rest) := by
  unfold read?
  split
  · next heq => cases heq
  · next heq => exact absurd (List.cons.inj heq).1 h
  · rfl

private theorem read?_sample {name connector value : String}
    (h : (sample name connector value).WellFormed) :
    read? (sample name connector value).text.toList = some (sample name connector value) := by
  obtain ⟨hname, hquote, -, hvalue⟩ := h
  have htext : (sample name connector value).text.toList =
      name.toList ++ '\x7b' :: ("connector=\"".toList ++ (connector.toList ++
        '"' :: ("\x7d ".toList ++ value.toList))) := by
    simp [ExpositionLine.text]
  have hsample : readSample? (sample name connector value).text.toList =
      some (sample name connector value) := by
    rw [htext, readSample?, cut?_append_cons (not_mem_of_isMetricName hname (c := '\x7b') rfl)]
    simp only [Option.bind_eq_bind, Option.bind_some, dropPrefix?_append, cut?_append_cons hquote,
      hname, hvalue, and_self, if_true, String.ofList_toList]
  have hsign : '#' ∉ name.toList := not_mem_of_isMetricName hname rfl
  rw [← hsample, htext]
  -- The line is not taken for a heading, because a name does not begin with a number sign.
  cases hchars : name.toList with
  | nil =>
    rw [hchars] at hname
    cases hname
  | cons c rest =>
    rw [hchars] at hsign
    exact read?_cons (List.ne_of_not_mem_cons hsign).symm _

private theorem read?_text {line : ExpositionLine} (h : line.WellFormed) :
    read? line.text.toList = some line := by
  cases line with
  | help name words => exact read?_help h
  | typed name sort => exact read?_typed h
  | sample name connector value => exact read?_sample h
  | blank => rfl

private theorem mapM_read?_text {lines : List ExpositionLine}
    (h : ∀ line ∈ lines, line.WellFormed) :
    (lines.map (·.text.toList)).mapM read? = some lines := by
  induction lines with
  | nil => rfl
  | cons line rest ih =>
    rw [List.map_cons, List.mapM_cons, read?_text (h line List.mem_cons_self),
      ih fun l hl ↦ h l (List.mem_cons_of_mem _ hl)]
    rfl

private theorem newline_not_mem_text {line : ExpositionLine} (h : line.WellFormed) :
    '\n' ∉ line.text.toList := by
  have hin {name : String} (hname : isMetricName name.toList = true) : '\n' ∉ name.toList :=
    not_mem_of_isMetricName hname rfl
  cases line with
  | help name words =>
    obtain ⟨hname, hwords⟩ := h
    simp [text, hin hname, hwords]
  | typed name sort =>
    obtain ⟨hname, hsort⟩ := h
    have hline : ∀ s ∈ metricSorts, '\n' ∉ s.toList := by decide
    simp [text, hin hname, hline sort hsort]
  | sample name connector value =>
    obtain ⟨hname, -, hconnector, hvalue⟩ := h
    simp [text, hin hname, hconnector, not_mem_of_isWord hvalue (c := '\n') rfl]
  | blank => exact List.not_mem_nil

end ExpositionLine

/-! ### Families -/

/-- A family as it is read: its name, type and help, and the connectors that have a sample in it
with their values. -/
structure ExposedFamily where
  name : String
  sort : String
  help : String
  samples : List (String × String)
  deriving DecidableEq

namespace ExposedFamily

/-- The samples, one a line. -/
def sampleLines (f : ExposedFamily) : List ExpositionLine :=
  f.samples.map fun s ↦ .sample f.name s.1 s.2

/-- The lines of a family. -/
def lines (f : ExposedFamily) : List ExpositionLine :=
  [.help f.name f.help, .typed f.name f.sort] ++ f.sampleLines ++ [.blank]

/-- A family that can be read. -/
structure WellFormed (f : ExposedFamily) : Prop where
  name : isMetricName f.name.toList = true
  sort : f.sort ∈ metricSorts
  help : '\n' ∉ f.help.toList
  samples : ∀ s ∈ f.samples, '"' ∉ s.1.toList ∧ '\n' ∉ s.1.toList ∧ isWord s.2.toList = true

private theorem WellFormed.lines {f : ExposedFamily} (h : f.WellFormed) :
    ∀ line ∈ f.lines, line.WellFormed := by
  intro line hline
  simp only [ExposedFamily.lines, sampleLines, List.mem_append, List.mem_cons, List.mem_map,
    List.not_mem_nil, or_false] at hline
  obtain ((rfl | rfl) | ⟨s, hs, rfl⟩) | rfl := hline
  · exact ⟨h.name, h.help⟩
  · exact ⟨h.name, h.sort⟩
  · exact ⟨h.name, h.samples s hs⟩
  · trivial

end ExposedFamily

/-! ### The whole text -/

/-- Where a reader is: between families, after a help line, or in a family. -/
inductive ReadingStage where
  | between
  | introduced (name help : String)
  | within (f : ExposedFamily)

/-- What a reader has read, and where it is. -/
structure ExpositionReader where
  read : List ExposedFamily := []
  stage : ReadingStage := .between

namespace ExpositionReader

/-- Takes one more line, if that line can stand here. -/
def take? (r : ExpositionReader) (line : ExpositionLine) : Option ExpositionReader :=
  match r.stage, line with
  | .between, .help name words => some { r with stage := .introduced name words }
  | .introduced name help, .typed again sort =>
    if again = name then some { r with stage := .within ⟨name, sort, help, []⟩ } else none
  | .within f, .sample name connector value =>
    if name = f.name then
      some { r with stage := .within { f with samples := f.samples ++ [(connector, value)] } }
    else none
  | .within f, .blank => some { read := r.read ++ [f], stage := .between }
  | _, _ => none

/-- The families, if the last of them is complete. -/
def complete? (r : ExpositionReader) : Option (List ExposedFamily) :=
  match r.stage with
  | .between => some r.read
  | _ => none

private theorem take?_samples (families : List ExposedFamily) (f : ExposedFamily)
    (samples : List (String × String)) :
    (samples.map fun s ↦ ExpositionLine.sample f.name s.1 s.2).foldlM take? ⟨families, .within f⟩ =
      some ⟨families, .within { f with samples := f.samples ++ samples }⟩ := by
  induction samples generalizing f with
  | nil =>
    rw [List.append_nil]
    rfl
  | cons s rest ih =>
    have hstep : take? ⟨families, .within f⟩ (.sample f.name s.1 s.2) =
        some ⟨families, .within { f with samples := f.samples ++ [s] }⟩ :=
      if_pos rfl
    rw [List.map_cons, List.foldlM_cons, hstep, Option.bind_eq_bind, Option.bind_some,
      ih { f with samples := f.samples ++ [s] }, List.append_assoc]
    rfl

private theorem take?_lines (families : List ExposedFamily) (f : ExposedFamily) :
    f.lines.foldlM take? ⟨families, .between⟩ = some ⟨families ++ [f], .between⟩ := by
  have hheading : [ExpositionLine.help f.name f.help, .typed f.name f.sort].foldlM take?
      ⟨families, .between⟩ = some ⟨families, .within { f with samples := [] }⟩ := by
    simp [take?]
  have hsamples := take?_samples families { f with samples := [] } f.samples
  simp only [ExposedFamily.lines, ExposedFamily.sampleLines, List.foldlM_append, hheading,
    Option.bind_eq_bind, Option.bind_some, hsamples]
  rfl

private theorem take?_flatMap (read families : List ExposedFamily) :
    (families.flatMap ExposedFamily.lines).foldlM take? ⟨read, .between⟩ =
      some ⟨read ++ families, .between⟩ := by
  induction families generalizing read with
  | nil =>
    rw [List.append_nil]
    rfl
  | cons f rest ih =>
    rw [List.flatMap_cons, List.foldlM_append, take?_lines, Option.bind_eq_bind, Option.bind_some,
      ih, List.append_assoc]
    rfl

end ExpositionReader

/-- Reads an exposition: every line ends with a line feed, and every family is complete. -/
def readExposition? (text : String) : Option (List ExposedFamily) := do
  let parts := text.toList.splitOn '\n'
  if parts.getLast? = some [] then
    let lines ← parts.dropLast.mapM ExpositionLine.read?
    let reader ← lines.foldlM ExpositionReader.take? {}
    reader.complete?
  else none

/-- The families in text, one line after the other. -/
def writtenFamilies (families : List ExposedFamily) : String :=
  String.join ((families.flatMap ExposedFamily.lines).map (·.text ++ "\n"))

private theorem splitOn_newline {lines : List (List Char)} (h : ∀ line ∈ lines, '\n' ∉ line) :
    (lines.flatMap (· ++ ['\n'])).splitOn '\n' = lines ++ [[]] := by
  induction lines with
  | nil => rfl
  | cons line rest ih =>
    rw [List.flatMap_cons, List.append_assoc, List.singleton_append,
      List.splitOn_append_cons_self_of_not_mem (h line List.mem_cons_self),
      ih fun l hl ↦ h l (List.mem_cons_of_mem _ hl)]
    rfl

/-- Families are read back from their text. -/
theorem readExposition?_writtenFamilies {families : List ExposedFamily}
    (h : ∀ f ∈ families, f.WellFormed) :
    readExposition? (writtenFamilies families) = some families := by
  let lines := families.flatMap ExposedFamily.lines
  have hlines : ∀ line ∈ lines, line.WellFormed := by
    intro line hline
    obtain ⟨f, hf, hin⟩ := List.mem_flatMap.mp hline
    exact (h f hf).lines line hin
  have hparts : (writtenFamilies families).toList.splitOn '\n' =
      lines.map (·.text.toList) ++ [[]] := by
    rw [← splitOn_newline, writtenFamilies, String.toList_join, List.flatMap_map, List.flatMap_map]
    · simp [lines]
    · intro cs hcs
      obtain ⟨line, hline, rfl⟩ := List.mem_map.mp hcs
      exact ExpositionLine.newline_not_mem_text (hlines line hline)
  have hread := ExpositionLine.mapM_read?_text hlines
  have htaken : lines.foldlM ExpositionReader.take? {} = some ⟨families, .between⟩ :=
    ExpositionReader.take?_flatMap [] families
  rw [readExposition?, hparts]
  simp only [List.getLast?_concat, if_true, List.dropLast_concat, hread, Option.bind_eq_bind,
    Option.bind_some, htaken]
  rfl

end GuardedDispatch
