/-
Finite maps from names to values, kept as rows in strictly increasing order of the names. Names
are ordered by code points, which is also the byte order of their UTF-8 forms. The main facts:
`get?_insert`, `get?_erase` and `get?_overlay` say what a lookup sees after a write,
`length_insert` and `length_erase` how many rows there are, and `Sorted.insert`, `Sorted.erase` keep
the order.
-/

namespace TemplateEngines

/-- Rows of a finite map, in increasing order of the names. -/
abbrev Dict (α : Type) := List (String × α)

namespace Dict

variable {α : Type}

/-! ## Operations -/

/-- The value bound to a name. -/
def get? : Dict α → String → Option α
  | [], _ => none
  | (k, v) :: rest, key => if k = key then some v else get? rest key

/-- Binds a name, replacing what it was bound to, and keeps the rows in order. -/
def insert : Dict α → String → α → Dict α
  | [], key, value => [(key, value)]
  | (k, v) :: rest, key, value =>
    if key < k then (key, value) :: (k, v) :: rest
    else if k = key then (key, value) :: rest
    else (k, v) :: insert rest key value

/-- Removes the binding of a name. -/
def erase : Dict α → String → Dict α
  | [], _ => []
  | (k, v) :: rest, key => if k = key then rest else (k, v) :: erase rest key

/-- Whether a name is bound. -/
def contains (d : Dict α) (key : String) : Bool := (d.get? key).isSome

/-- The bound names, in order. -/
def keys (d : Dict α) : List String := d.map (·.1)

/-- Binds the pairs of a list one after the other; the last pair of a name stays. -/
def ofList (pairs : List (String × α)) : Dict α :=
  pairs.foldl (fun d p => d.insert p.1 p.2) []

/-- The bindings of `d` overridden by those of `upper`. -/
def overlay (d upper : Dict α) : Dict α :=
  upper.foldl (fun acc p => acc.insert p.1 p.2) d

/-! ## Order -/

/-- The rows are in strictly increasing order of the names. -/
def Sorted (d : Dict α) : Prop := d.Pairwise (fun a b => a.1 < b.1)

instance (d : Dict α) : Decidable (Sorted d) :=
  inferInstanceAs (Decidable (d.Pairwise fun a b => a.1 < b.1))

theorem sorted_nil : Sorted ([] : Dict α) := List.Pairwise.nil

theorem lt_of_not_lt_of_ne {a b : String} (h : ¬ a < b) (hne : b ≠ a) : b < a := by
  rcases Std.lt_trichotomy a b with h1 | h1 | h1
  · exact absurd h1 h
  · exact absurd h1.symm hne
  · exact h1

theorem mem_insert {d : Dict α} {key : String} {value : α} {row : String × α}
    (h : row ∈ d.insert key value) : row = (key, value) ∨ row ∈ d := by
  induction d with
  | nil => simpa [insert] using h
  | cons head rest ih =>
    obtain ⟨k, v⟩ := head
    rw [insert] at h
    split at h
    · simpa using h
    · split at h
      · rcases List.mem_cons.1 h with h | h
        · exact .inl h
        · exact .inr (List.mem_cons_of_mem _ h)
      · rcases List.mem_cons.1 h with h | h
        · exact .inr (h ▸ List.mem_cons_self)
        · exact (ih h).imp id (List.mem_cons_of_mem _)

theorem mem_of_mem_erase {d : Dict α} {key : String} {row : String × α}
    (h : row ∈ d.erase key) : row ∈ d := by
  induction d with
  | nil => simp [erase] at h
  | cons head rest ih =>
    obtain ⟨k, v⟩ := head
    rw [erase] at h
    split at h
    · exact List.mem_cons_of_mem _ h
    · rcases List.mem_cons.1 h with h | h
      · exact h ▸ List.mem_cons_self
      · exact List.mem_cons_of_mem _ (ih h)

theorem Sorted.insert {d : Dict α} (h : Sorted d) (key : String) (value : α) :
    Sorted (d.insert key value) := by
  induction d with
  | nil => exact List.pairwise_singleton _ _
  | cons head rest ih =>
    obtain ⟨k, v⟩ := head
    obtain ⟨hk, hrest⟩ := List.pairwise_cons.1 h
    rw [Dict.insert]
    split
    · rename_i hlt
      refine List.pairwise_cons.2 ⟨fun row hrow => ?_, h⟩
      rcases List.mem_cons.1 hrow with rfl | hmem
      · exact hlt
      · exact String.lt_trans hlt (hk row hmem)
    · rename_i hnlt
      split
      · rename_i heq
        subst heq
        exact List.pairwise_cons.2 ⟨hk, hrest⟩
      · rename_i hne
        refine List.pairwise_cons.2 ⟨fun row hrow => ?_, ih hrest⟩
        rcases mem_insert hrow with rfl | hmem
        · exact lt_of_not_lt_of_ne hnlt hne
        · exact hk row hmem

theorem Sorted.erase {d : Dict α} (h : Sorted d) (key : String) : Sorted (d.erase key) := by
  induction d with
  | nil => exact h
  | cons head rest ih =>
    obtain ⟨k, v⟩ := head
    obtain ⟨hk, hrest⟩ := List.pairwise_cons.1 h
    rw [Dict.erase]
    split
    · exact hrest
    · exact List.pairwise_cons.2 ⟨fun row hrow => hk row (mem_of_mem_erase hrow), ih hrest⟩

/-- A name behind all others gets the last row. -/
theorem insert_of_forall_lt {d : Dict α} {key : String} (h : ∀ row ∈ d, row.1 < key) (value : α) :
    d.insert key value = d ++ [(key, value)] := by
  induction d with
  | nil => rfl
  | cons head rest ih =>
    obtain ⟨k, v⟩ := head
    obtain ⟨hk, hrest⟩ := List.forall_mem_cons.1 h
    have hne : k ≠ key := fun heq => String.lt_irrefl k (heq ▸ hk)
    have hnlt : ¬ key < k := fun hlt => String.lt_irrefl k (String.lt_trans hk hlt)
    rw [insert, if_neg hnlt, if_neg hne, ih hrest, List.cons_append]

/-- Binding pairs that are in order gives them as rows. -/
theorem Sorted.ofList {d : Dict α} (h : Sorted d) : ofList d = d := by
  have hfold : ∀ front rest : Dict α, Sorted (front ++ rest) →
      rest.foldl (fun d p => d.insert p.1 p.2) front = front ++ rest := by
    intro front rest
    induction rest generalizing front with
    | nil => simp
    | cons row rest ih =>
      intro hsorted
      have hlast : ∀ r ∈ front, r.1 < row.1 := fun r hr =>
        (List.pairwise_append.1 hsorted).2.2 r hr row List.mem_cons_self
      have hsplit : front ++ row :: rest = front ++ [row] ++ rest := by simp
      rw [List.foldl_cons, insert_of_forall_lt hlast, hsplit]
      exact ih _ (hsplit ▸ hsorted)
  exact hfold [] d h

/-! ## What a lookup sees -/

theorem get?_insert (d : Dict α) (key : String) (value : α) (k : String) :
    (d.insert key value).get? k = if key = k then some value else d.get? k := by
  induction d with
  | nil => simp [insert, get?]
  | cons head rest ih =>
    obtain ⟨k', v⟩ := head
    rw [insert]
    split
    · simp [get?]
    · split
      · rename_i heq
        subst heq
        simp only [get?]
        split <;> rfl
      · rename_i hne
        simp only [get?, ih]
        by_cases hk : k' = k
        · subst hk
          simp [Ne.symm hne]
        · simp [hk]

theorem get?_eq_none {d : Dict α} {key : String} (h : ∀ row ∈ d, row.1 ≠ key) :
    d.get? key = none := by
  induction d with
  | nil => rfl
  | cons head rest ih =>
    obtain ⟨k, v⟩ := head
    have hk : k ≠ key := h (k, v) List.mem_cons_self
    simp [get?, hk, ih fun row hrow => h row (List.mem_cons_of_mem _ hrow)]

theorem mem_of_get?_eq_some {d : Dict α} {key : String} {value : α} (h : d.get? key = some value) :
    (key, value) ∈ d := by
  induction d with
  | nil => cases h
  | cons head rest ih =>
    obtain ⟨k, v⟩ := head
    rw [get?] at h
    split at h
    · rename_i heq
      cases h
      exact heq ▸ List.mem_cons_self
    · exact List.mem_cons_of_mem _ (ih h)

theorem Sorted.get?_of_lt {k key : String} {v : α} {rest : Dict α} (h : Sorted ((k, v) :: rest))
    (hlt : key < k) : get? ((k, v) :: rest) key = none := by
  refine get?_eq_none fun row hrow heq => ?_
  subst heq
  rcases List.mem_cons.1 hrow with rfl | hmem
  · exact String.lt_irrefl _ hlt
  · exact String.lt_irrefl _ (String.lt_trans hlt ((List.pairwise_cons.1 h).1 row hmem))

theorem Sorted.get?_rest {k : String} {v : α} {rest : Dict α} (h : Sorted ((k, v) :: rest)) :
    rest.get? k = none := by
  refine get?_eq_none fun row hrow heq => ?_
  have hlt := (List.pairwise_cons.1 h).1 row hrow
  rw [heq] at hlt
  exact String.lt_irrefl _ hlt

theorem get?_erase {d : Dict α} (h : Sorted d) (key k : String) :
    (d.erase key).get? k = if key = k then none else d.get? k := by
  induction d with
  | nil => simp [erase, get?]
  | cons head rest ih =>
    obtain ⟨k', v⟩ := head
    obtain ⟨hk, hrest⟩ := List.pairwise_cons.1 h
    rw [erase]
    split
    · rename_i heq
      subst heq
      by_cases hkk : k' = k
      · subst hkk
        rw [if_pos rfl, h.get?_rest]
      · simp [get?, hkk]
    · rename_i hne
      simp only [get?, ih hrest]
      by_cases hkk : k' = k
      · subst hkk
        simp [Ne.symm hne]
      · simp [hkk]

theorem get?_map {β : Type} (f : α → β) (d : Dict α) (key : String) :
    get? (d.map fun (k, v) => (k, f v)) key = (d.get? key).map f := by
  induction d with
  | nil => rfl
  | cons head rest ih =>
    obtain ⟨k, v⟩ := head
    simp only [List.map_cons, get?, ih]
    split <;> rfl

/-- The upper bindings count first. -/
theorem get?_overlay {upper : Dict α} (h : Sorted upper) (d : Dict α) (key : String) :
    (d.overlay upper).get? key = (upper.get? key).or (d.get? key) := by
  induction upper generalizing d with
  | nil => rfl
  | cons head rest ih =>
    obtain ⟨k, v⟩ := head
    have hrest : (d.overlay ((k, v) :: rest)).get? key =
        (get? rest key).or ((d.insert k v).get? key) := ih (List.pairwise_cons.1 h).2 (d.insert k v)
    rw [hrest, get?_insert, get?]
    by_cases hk : k = key
    · subst hk
      simp [h.get?_rest]
    · simp [hk]

/-- Rows in order are determined by the lookups. -/
theorem Sorted.ext {d e : Dict α} (hd : Sorted d) (he : Sorted e)
    (h : ∀ key, d.get? key = e.get? key) : d = e := by
  induction d generalizing e with
  | nil =>
    cases e with
    | nil => rfl
    | cons row rest => simpa [get?] using h row.1
  | cons row rest ih =>
    obtain ⟨k, v⟩ := row
    cases e with
    | nil => simpa [get?] using h k
    | cons row' rest' =>
      obtain ⟨k', v'⟩ := row'
      -- A first name that is less than the other could not be found on the other side.
      have hk : k = k' := by
        rcases Std.lt_trichotomy k k' with hlt | heq | hlt
        · have hnone := h k
          rw [he.get?_of_lt hlt] at hnone
          simp [get?] at hnone
        · exact heq
        · have hnone := h k'
          rw [hd.get?_of_lt hlt] at hnone
          simp [get?] at hnone
      subst hk
      have hv : v = v' := by simpa [get?] using h k
      subst hv
      rw [ih (List.pairwise_cons.1 hd).2 (List.pairwise_cons.1 he).2 fun key => ?_]
      by_cases hkey : k = key
      · subst hkey
        rw [hd.get?_rest, he.get?_rest]
      · simpa [get?, hkey] using h key

/-! ## Names and size -/

theorem mem_keys {d : Dict α} {key : String} : key ∈ d.keys ↔ (d.get? key).isSome := by
  induction d with
  | nil => simp [keys, get?]
  | cons head rest ih =>
    obtain ⟨k, v⟩ := head
    rw [keys] at ih
    rw [keys, List.map_cons, List.mem_cons, ih, get?]
    by_cases hk : k = key
    · simp [hk]
    · simp [hk, Ne.symm hk]

/-- A write adds a row, unless it replaces one. -/
theorem length_insert {d : Dict α} (h : Sorted d) (key : String) (value : α) :
    (d.insert key value).length + (d.get? key).toList.length = d.length + 1 := by
  induction d with
  | nil => rfl
  | cons head rest ih =>
    obtain ⟨k, v⟩ := head
    obtain ⟨hk, hrest⟩ := List.pairwise_cons.1 h
    rw [insert]
    split
    · rename_i hlt
      rw [h.get?_of_lt hlt]
      rfl
    · split
      · rename_i heq
        rw [get?, if_pos heq]
        rfl
      · rename_i hne
        have := ih hrest
        rw [get?, if_neg hne, List.length_cons, List.length_cons]
        omega

theorem length_erase (d : Dict α) (key : String) :
    (d.erase key).length + (d.get? key).toList.length = d.length := by
  induction d with
  | nil => rfl
  | cons head rest ih =>
    obtain ⟨k, v⟩ := head
    rw [erase, get?]
    by_cases hk : k = key
    · rw [if_pos hk, if_pos hk]
      rfl
    · rw [if_neg hk, if_neg hk, List.length_cons, List.length_cons]
      omega

end Dict

end TemplateEngines
