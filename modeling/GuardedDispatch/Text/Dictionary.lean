/-!
# Dictionaries: one value a name

Headers, query variables and attributes hold one value for each name, the one put in last. The
entries are kept in ascending order of their names, so dictionaries with the same lookups are
equal. The view of a dictionary is `get?`; `get?_put` says what putting a value in does to it.
-/

namespace GuardedDispatch.Text

variable {α : Type}

/-- Values by name, in ascending order of the names. -/
structure Dictionary (α : Type) where
  entries : List (String × α)
  ascending : entries.Pairwise (fun a b => a.1 < b.1)
  deriving DecidableEq, Repr

namespace Dictionary

/-- The dictionary without entries. -/
def empty : Dictionary α := ⟨[], .nil⟩

instance : Inhabited (Dictionary α) := ⟨empty⟩

instance : EmptyCollection (Dictionary α) := ⟨empty⟩

/-- Puts an entry into its place; an entry of the same name is replaced. -/
def putEntry (name : String) (value : α) : List (String × α) → List (String × α)
  | [] => [(name, value)]
  | (n, v) :: rest =>
    if name < n then (name, value) :: (n, v) :: rest
    else if name = n then (name, value) :: rest
    else (n, v) :: putEntry name value rest

/-- An entry after the insertion is the new one or an old one. -/
theorem mem_putEntry {name : String} {value : α} {entries : List (String × α)} {e : String × α}
    (h : e ∈ putEntry name value entries) : e = (name, value) ∨ e ∈ entries := by
  induction entries with
  | nil => simpa [putEntry] using h
  | cons m rest ih =>
    obtain ⟨n, v⟩ := m
    simp only [putEntry] at h
    split at h
    · simpa using h
    · split at h
      · rcases List.mem_cons.1 h with h | h
        · exact .inl h
        · exact .inr (List.mem_cons_of_mem _ h)
      · rcases List.mem_cons.1 h with h | h
        · exact .inr (h ▸ List.mem_cons_self)
        · exact (ih h).imp id (List.mem_cons_of_mem _)

/-- Insertion keeps the entries in ascending order. -/
theorem putEntry_ascending (name : String) (value : α) (entries : List (String × α))
    (h : entries.Pairwise (fun a b => a.1 < b.1)) :
    (putEntry name value entries).Pairwise (fun a b => a.1 < b.1) := by
  induction entries with
  | nil => simp [putEntry]
  | cons m rest ih =>
    obtain ⟨n, v⟩ := m
    obtain ⟨hm, hrest⟩ := List.pairwise_cons.1 h
    simp only [putEntry]
    split
    · rename_i hlt
      refine List.pairwise_cons.2 ⟨fun e he => ?_, h⟩
      rcases List.mem_cons.1 he with rfl | he
      · exact hlt
      · exact String.lt_trans hlt (hm e he)
    · split
      · rename_i heq
        subst heq
        exact List.pairwise_cons.2 ⟨fun e he => hm e he, hrest⟩
      · rename_i hnlt hne
        refine List.pairwise_cons.2 ⟨fun e he => ?_, ih hrest⟩
        rcases mem_putEntry he with rfl | he
        · exact Decidable.byContradiction fun hn =>
            hne (String.le_antisymm (String.not_lt.1 hn) (String.not_lt.1 hnlt))
        · exact hm e he

/-- The dictionary with one more entry, or with its value replaced. -/
def put (d : Dictionary α) (name : String) (value : α) : Dictionary α :=
  ⟨putEntry name value d.entries, putEntry_ascending name value d.entries d.ascending⟩

/-- The dictionary of a list of entries; of two entries of one name the later one stays. -/
def ofList (entries : List (String × α)) : Dictionary α :=
  entries.foldl (fun d e => d.put e.1 e.2) empty

/-- The value of the first entry with a name. -/
def lookup? (name : String) : List (String × α) → Option α
  | [] => none
  | (n, v) :: rest => if n = name then some v else lookup? name rest

/-- The value of a name. -/
def get? (d : Dictionary α) (name : String) : Option α := lookup? name d.entries

/-- The number of entries. -/
def size (d : Dictionary α) : Nat := d.entries.length

/-- Lookup in a list after insertion. -/
theorem lookup?_putEntry (name other : String) (value : α) (entries : List (String × α)) :
    lookup? other (putEntry name value entries) =
      if name = other then some value else lookup? other entries := by
  induction entries with
  | nil => simp [putEntry, lookup?]
  | cons m rest ih =>
    obtain ⟨n, v⟩ := m
    simp only [putEntry]
    split
    · by_cases h : name = other <;> simp [lookup?, h]
    · split
      · rename_i h
        subst h
        by_cases h' : name = other <;> simp [lookup?, h']
      · rename_i hne
        by_cases h' : n = other
        · subst h'
          simp [lookup?, hne]
        · simp [lookup?, h', ih]

/-- The empty dictionary finds nothing. -/
@[simp] theorem get?_empty (name : String) : (empty : Dictionary α).get? name = none := rfl

/-- Putting a value in changes the lookup of its name and no other. -/
@[simp] theorem get?_put (d : Dictionary α) (name other : String) (value : α) :
    (d.put name value).get? other = if name = other then some value else d.get? other :=
  lookup?_putEntry name other value d.entries

end Dictionary

end GuardedDispatch.Text
