/-
**Maps in the order of their keys.**

Everything that the program lists under a name — universal rules, category sections, overrides — is
listed in the order of the names, so that its output does not depend on the order in which the
entries came.  Such a map is a list of entries whose keys increase.

Main definitions:

* `Rulebook.SortedMap` — the maps, with `get?`, `insert`, `update`, `erase` and `ofList`;
* `Rulebook.SortedMap.grouped` — the items of a list under their keys.

Main statements:

* `Rulebook.SortedMap.get?_insert`, `Rulebook.SortedMap.get?_update`,
  `Rulebook.SortedMap.get?_erase` — looking up a key after a change;
* `Rulebook.SortedMap.getD_foldl_addTo` — what a key has after several more items;
* `Rulebook.SortedMap.ext_get?` — a map is determined by what it has under each key.
-/

set_option autoImplicit false

namespace Rulebook

/-- A map whose entries are listed by increasing key. -/
structure SortedMap (κ α : Type) [Ord κ] where
  /-- The entries. -/
  entries : List (κ × α)
  /-- The keys increase. -/
  increasing : entries.Pairwise fun a b => compare a.1 b.1 = .lt
  deriving DecidableEq, Repr

namespace SortedMap

variable {κ α : Type} [Ord κ]

/-! ### Entries -/

/-- The value of the first entry with the given key. -/
def find? (key : κ) : List (κ × α) → Option α
  | [] => none
  | entry :: rest => if compare key entry.1 = .eq then some entry.2 else find? key rest

/-- Entries with one more, in its place, or in the place of the entry with the same key. -/
def insertEntry (key : κ) (value : α) : List (κ × α) → List (κ × α)
  | [] => [(key, value)]
  | entry :: rest =>
    match compare key entry.1 with
    | .lt => (key, value) :: entry :: rest
    | .eq => (key, value) :: rest
    | .gt => entry :: insertEntry key value rest

/-- Entries without those of one key. -/
def eraseEntry (key : κ) (entries : List (κ × α)) : List (κ × α) :=
  entries.filter fun entry => compare key entry.1 ≠ .eq

/-- A key of the new entries is the new key or an old one. -/
theorem mem_insertEntry {key : κ} {value : α} {entries : List (κ × α)} {entry : κ × α}
    (h : entry ∈ insertEntry key value entries) : entry = (key, value) ∨ entry ∈ entries := by
  induction entries with
  | nil => simpa [insertEntry] using h
  | cons first rest ih =>
    rw [insertEntry] at h
    split at h
    · simpa using h
    · rcases List.mem_cons.1 h with h | h
      · exact .inl h
      · exact .inr (List.mem_cons_of_mem _ h)
    · rcases List.mem_cons.1 h with h | h
      · exact .inr (h ▸ List.mem_cons_self)
      · exact (ih h).imp id (List.mem_cons_of_mem _)

variable [Std.TransOrd κ] [Std.LawfulEqOrd κ]

/-- Inserting keeps the keys increasing. -/
theorem pairwise_insertEntry (key : κ) (value : α) {entries : List (κ × α)}
    (h : entries.Pairwise fun a b => compare a.1 b.1 = .lt) :
    (insertEntry key value entries).Pairwise fun a b => compare a.1 b.1 = .lt := by
  induction entries with
  | nil => simp [insertEntry]
  | cons first rest ih =>
    rw [List.pairwise_cons] at h
    rw [insertEntry]
    split
    · rename_i hlt
      refine List.pairwise_cons.2 ⟨fun e he => ?_, List.pairwise_cons.2 h⟩
      rcases List.mem_cons.1 he with rfl | he
      · exact hlt
      · exact Std.TransCmp.lt_trans hlt (h.1 e he)
    · rename_i heq
      have hk := Std.LawfulEqCmp.eq_of_compare heq
      exact List.pairwise_cons.2 ⟨fun e he => hk ▸ h.1 e he, h.2⟩
    · rename_i hgt
      refine List.pairwise_cons.2 ⟨fun e he => ?_, ih h.2⟩
      rcases mem_insertEntry he with rfl | he
      · exact Std.OrientedCmp.gt_iff_lt.1 hgt
      · exact h.1 e he

/-! ### Maps -/

/-- The map without entries. -/
def empty : SortedMap κ α := ⟨[], List.Pairwise.nil⟩

instance : Inhabited (SortedMap κ α) := ⟨empty⟩

/-- The value under a key. -/
def get? (m : SortedMap κ α) (key : κ) : Option α := find? key m.entries

/-- Gives a key a value. -/
def insert (m : SortedMap κ α) (key : κ) (value : α) : SortedMap κ α :=
  ⟨insertEntry key value m.entries, pairwise_insertEntry key value m.increasing⟩

/-- Takes a key away. -/
def erase (m : SortedMap κ α) (key : κ) : SortedMap κ α :=
  ⟨eraseEntry key m.entries, m.increasing.filter _⟩

/-- Changes the value under a key; a key without one begins with the given value. -/
def update (m : SortedMap κ α) (key : κ) (start : α) (f : α → α) : SortedMap κ α :=
  m.insert key (f ((m.get? key).getD start))

/-- The map of a list of entries, the last entry of a key counting. -/
def ofList (entries : List (κ × α)) : SortedMap κ α :=
  entries.foldl (fun m entry => m.insert entry.1 entry.2) empty

/-- One more item, at the end of those with its key. -/
def addTo {β : Type} (key : β → κ) (m : SortedMap κ (List β)) (item : β) : SortedMap κ (List β) :=
  m.update (key item) [] (· ++ [item])

/-- The items of a list under their keys, those of one key in order. -/
def grouped {β : Type} (key : β → κ) (items : List β) : SortedMap κ (List β) :=
  items.foldl (addTo key) empty

/-- The keys, increasing. -/
def keys (m : SortedMap κ α) : List κ := m.entries.map Prod.fst

/-- The values, by increasing key. -/
def values (m : SortedMap κ α) : List α := m.entries.map Prod.snd

/-- Whether a map has no entries. -/
def isEmpty (m : SortedMap κ α) : Bool := m.entries.isEmpty

/-! ### Looking up -/

omit [Std.TransOrd κ] in
theorem find?_cons [DecidableEq κ] (key : κ) (entry : κ × α) (rest : List (κ × α)) :
    find? key (entry :: rest) = if key = entry.1 then some entry.2 else find? key rest := by
  rw [find?]
  simp only [Std.LawfulEqCmp.compare_eq_iff_eq]

omit [Std.TransOrd κ] [Std.LawfulEqOrd κ] in
/-- Below the first key nothing is found. -/
theorem find?_eq_none_of_lt {key : κ} {entries : List (κ × α)}
    (h : ∀ e ∈ entries, compare key e.1 = .lt) : find? key entries = none := by
  induction entries with
  | nil => rfl
  | cons first rest ih =>
    rw [find?, h first List.mem_cons_self]
    simpa using ih fun e he => h e (List.mem_cons_of_mem _ he)

omit [Std.TransOrd κ] [Std.LawfulEqOrd κ] in
@[simp] theorem get?_empty (key : κ) : (empty : SortedMap κ α).get? key = none := rfl

omit [Std.TransOrd κ] in
theorem find?_insertEntry [DecidableEq κ] (key other : κ) (value : α) (entries : List (κ × α)) :
    find? other (insertEntry key value entries) =
      if other = key then some value else find? other entries := by
  induction entries with
  | nil => simp [insertEntry, find?_cons]
  | cons first rest ih =>
    rw [insertEntry]
    split
    · rw [find?_cons]
    · rename_i heq
      have hk := Std.LawfulEqCmp.eq_of_compare heq
      simp only [find?_cons, hk]
      split <;> simp_all
    · rename_i hgt
      have hne : first.1 ≠ key := by
        intro hk
        rw [hk] at hgt
        simp at hgt
      simp only [find?_cons, ih]
      by_cases h₁ : other = first.1
      · have : other ≠ key := h₁ ▸ hne
        simp [h₁, hne]
      · simp [h₁]

/-- A key that was given a value has it; every other key is as before. -/
theorem get?_insert [DecidableEq κ] (m : SortedMap κ α) (key other : κ) (value : α) :
    (m.insert key value).get? other = if other = key then some value else m.get? other :=
  find?_insertEntry key other value m.entries

/-- A key whose value was changed has the new one; every other key is as before. -/
theorem get?_update [DecidableEq κ] (m : SortedMap κ α) (key other : κ) (start : α) (f : α → α) :
    (m.update key start f).get? other =
      if other = key then some (f ((m.get? key).getD start)) else m.get? other :=
  m.get?_insert key other _

/-- A key has after several more items what it had before, and those with this key in order. -/
theorem getD_foldl_addTo [DecidableEq κ] {β : Type} (key : β → κ) (m : SortedMap κ (List β))
    (items : List β) (k : κ) :
    ((items.foldl (addTo key) m).get? k).getD [] =
      (m.get? k).getD [] ++ items.filter fun item => key item == k := by
  induction items generalizing m with
  | nil => simp
  | cons item rest ih =>
    rw [List.foldl_cons, ih, addTo, get?_update, List.filter_cons]
    by_cases h : k = key item
    · simp [h]
    · simp [h, Ne.symm h]

omit [Std.TransOrd κ] in
/-- A key that was taken away has no value; every other key is as before. -/
theorem get?_erase [DecidableEq κ] (m : SortedMap κ α) (key other : κ) :
    (m.erase key).get? other = if other = key then none else m.get? other := by
  show find? other (eraseEntry key m.entries) = _
  rw [show m.get? other = find? other m.entries from rfl]
  induction m.entries with
  | nil => simp [eraseEntry, find?]
  | cons first rest ih =>
    rw [eraseEntry, List.filter_cons]
    by_cases hk : key = first.1
    · simp only [hk, Std.ReflCmp.compare_self, ne_eq, not_true_eq_false, decide_false,
        Bool.false_eq_true, if_false]
      rw [← hk]
      rw [eraseEntry] at ih
      rw [ih, find?_cons]
      split <;> simp_all
    · have : compare key first.1 ≠ .eq := fun h => hk (Std.LawfulEqCmp.eq_of_compare h)
      simp only [this, ne_eq, not_false_eq_true, decide_true, if_true, find?_cons]
      rw [eraseEntry] at ih
      rw [ih]
      by_cases h₁ : other = first.1
      · have hne : first.1 ≠ key := fun h => hk h.symm
        simp [h₁, hne]
      · simp [h₁]

omit [Std.TransOrd κ] in
/-- A value found under a key stands in an entry of that key. -/
theorem mem_of_find? {key : κ} {value : α} {entries : List (κ × α)}
    (h : find? key entries = some value) : (key, value) ∈ entries := by
  induction entries with
  | nil => simp [find?] at h
  | cons first rest ih =>
    rw [find?] at h
    split at h
    · rename_i heq
      have := Std.LawfulEqCmp.eq_of_compare heq
      simp only [Option.some.injEq] at h
      subst h this
      exact List.mem_cons_self
    · exact List.mem_cons_of_mem _ (ih h)

/-- In an increasing list an entry is found under its key. -/
theorem find?_of_mem {key : κ} {value : α} {entries : List (κ × α)}
    (hs : entries.Pairwise fun a b => compare a.1 b.1 = .lt) (h : (key, value) ∈ entries) :
    find? key entries = some value := by
  induction entries with
  | nil => simp at h
  | cons first rest ih =>
    rw [List.pairwise_cons] at hs
    rw [find?]
    rcases List.mem_cons.1 h with rfl | h
    · simp
    · have := Std.OrientedCmp.gt_of_lt (hs.1 _ h)
      simp only at this
      simp [this, ih hs.2 h]

/-- Two increasing lists in which the same is found under every key are equal. -/
theorem eq_of_find?_eq {l₁ l₂ : List (κ × α)}
    (h₁ : l₁.Pairwise fun a b => compare a.1 b.1 = .lt)
    (h₂ : l₂.Pairwise fun a b => compare a.1 b.1 = .lt)
    (h : ∀ key, find? key l₁ = find? key l₂) : l₁ = l₂ := by
  induction l₁ generalizing l₂ with
  | nil =>
    cases l₂ with
    | nil => rfl
    | cons b l₂ => simpa [find?] using h b.1
  | cons a l₁ ih =>
    cases l₂ with
    | nil => simpa [find?] using h a.1
    | cons b l₂ =>
      have ha : find? a.1 (b :: l₂) = some a.2 := by rw [← h a.1, find?]; simp
      have hb : find? b.1 (a :: l₁) = some b.2 := by rw [h b.1, find?]; simp
      have hab : a = b := by
        rcases List.mem_cons.1 (mem_of_find? ha) with h' | h'
        · exact h'
        · rcases List.mem_cons.1 (mem_of_find? hb) with h'' | h''
          · exact h''.symm
          · have l := (List.pairwise_cons.1 h₂).1 _ h'
            have r := (List.pairwise_cons.1 h₁).1 _ h''
            have := Std.TransCmp.lt_trans l r
            simp at this
      subst hab
      rw [List.pairwise_cons] at h₁ h₂
      refine congrArg (a :: ·) (ih h₁.2 h₂.2 fun key => ?_)
      have hk := h key
      rw [find?, find?] at hk
      split at hk
      · rename_i heq
        have := Std.LawfulEqCmp.eq_of_compare heq
        subst this
        rw [find?_eq_none_of_lt h₁.1, find?_eq_none_of_lt h₂.1]
      · exact hk

/-- A map is determined by what it has under each key. -/
theorem ext_get? {m₁ m₂ : SortedMap κ α} (h : ∀ key, m₁.get? key = m₂.get? key) : m₁ = m₂ := by
  cases m₁
  cases m₂
  congr
  exact eq_of_find?_eq ‹_› ‹_› h

end SortedMap

end Rulebook
