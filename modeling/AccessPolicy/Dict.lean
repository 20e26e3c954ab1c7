/-!
# Dictionaries with text keys

A record, a set of conditions, an attribute bag and a set of field filters are all
dictionaries: finitely many keys, each with one value, and no order of its own. `Dict`
keeps the entries in strictly ascending order of the keys, so that two dictionaries with
the same content are equal and every traversal runs in the order of the keys.

## Main definitions

* `Dict α` — the entries together with a proof that their keys ascend.
* `Dict.get?`, `Dict.insert`, `Dict.ofList`, `Dict.filter`, `Dict.map` — the operations.
* `Dict.mapM?` — a new value for every entry, or nothing at all.
* `NameSet` — a dictionary without values.

## Main statements

* `Dict.get?_insert` — insertion changes the value at its own key and at no other.
* `Dict.get?_filter` — a filtered dictionary keeps the values of the keys it keeps.
-/
namespace AccessPolicy

/-- The keys of a list of entries ascend strictly. -/
def KeysAscend {α : Type} (entries : List (String × α)) : Prop :=
  entries.Pairwise fun a b => a.1 < b.1

/-- A finite map from texts to values, held in ascending order of its keys. -/
structure Dict (α : Type) where
  /-- The entries, in ascending order of their keys. -/
  entries : List (String × α)
  /-- No key occurs twice, and the order is that of the texts. -/
  ascending : KeysAscend entries

variable {α β : Type}

theorem Dict.ext {d e : Dict α} (h : d.entries = e.entries) : d = e := by
  cases d; cases e; cases h; rfl

instance [DecidableEq α] : DecidableEq (Dict α) := fun d e =>
  if h : d.entries = e.entries then isTrue (Dict.ext h) else isFalse fun he => h (he ▸ rfl)

namespace Dict

/-! ## Building -/

/-- The dictionary without entries. -/
def empty : Dict α := ⟨[], List.Pairwise.nil⟩

instance : EmptyCollection (Dict α) := ⟨empty⟩
instance : Inhabited (Dict α) := ⟨empty⟩

/-- Puts `v` at `k` in a list of entries whose keys ascend, in place of what stood there. -/
def insertEntry (k : String) (v : α) : List (String × α) → List (String × α)
  | [] => [(k, v)]
  | e :: rest =>
    if k < e.1 then (k, v) :: e :: rest
    else if k = e.1 then (k, v) :: rest
    else e :: insertEntry k v rest

theorem mem_insertEntry {k : String} {v : α} {e : String × α} {entries : List (String × α)}
    (h : e ∈ insertEntry k v entries) : e = (k, v) ∨ e ∈ entries := by
  induction entries with
  | nil => simpa [insertEntry] using h
  | cons x rest ih =>
    simp only [insertEntry] at h
    split at h
    · simpa using h
    · split at h
      · rcases List.mem_cons.1 h with h | h
        · exact .inl h
        · exact .inr (List.mem_cons_of_mem _ h)
      · rcases List.mem_cons.1 h with h | h
        · exact .inr (h ▸ List.mem_cons_self)
        · exact (ih h).imp id (List.mem_cons_of_mem _)

/-- Two texts neither of which is less are the same text. -/
theorem key_lt_of_not_lt {a b : String} (h : ¬ a < b) (hne : a ≠ b) : b < a :=
  Decidable.by_contra fun hn =>
    hne (String.le_antisymm (String.not_lt.1 hn) (String.not_lt.1 h))

theorem keysAscend_insertEntry (k : String) (v : α) {entries : List (String × α)}
    (h : KeysAscend entries) : KeysAscend (insertEntry k v entries) := by
  induction entries with
  | nil => exact List.pairwise_singleton _ _
  | cons e rest ih =>
    obtain ⟨above, tail⟩ := List.pairwise_cons.1 h
    simp only [insertEntry]
    split
    · rename_i hlt
      refine List.pairwise_cons.2 ⟨fun x hx => ?_, h⟩
      rcases List.mem_cons.1 hx with rfl | hx
      · exact hlt
      · exact String.lt_trans hlt (above x hx)
    · split
      · rename_i heq
        exact List.pairwise_cons.2 ⟨fun x hx => heq ▸ above x hx, tail⟩
      · rename_i hlt hne
        refine List.pairwise_cons.2 ⟨fun x hx => ?_, ih tail⟩
        rcases mem_insertEntry hx with rfl | hx
        · exact key_lt_of_not_lt hlt hne
        · exact above x hx

/-- Puts `v` at `k`, in place of what stood there. -/
def insert (k : String) (v : α) (d : Dict α) : Dict α :=
  ⟨insertEntry k v d.entries, keysAscend_insertEntry k v d.ascending⟩

/-- The dictionary of a list of entries; of two entries with one key the later one counts. -/
def ofList (entries : List (String × α)) : Dict α :=
  entries.foldl (fun d e => d.insert e.1 e.2) empty

/-! ## Looking -/

/-- The value of the first entry with key `k`, if there is one. -/
def valueAt? (k : String) : List (String × α) → Option α
  | [] => none
  | e :: rest => if k = e.1 then some e.2 else valueAt? k rest

/-- The value at a key, if the key occurs. -/
def get? (d : Dict α) (k : String) : Option α := valueAt? k d.entries

/-- Whether a key occurs. -/
def contains (d : Dict α) (k : String) : Bool := (d.get? k).isSome

/-- The keys, in ascending order. -/
def keys (d : Dict α) : List String := d.entries.map Prod.fst

/-- Whether there is no entry at all. -/
def isEmpty (d : Dict α) : Bool := d.entries.isEmpty

/-- Whether every entry passes a test. -/
def all (d : Dict α) (p : String → α → Bool) : Bool := d.entries.all fun e => p e.1 e.2

/-! ## Transforming -/

/-- The entries that pass a test. -/
def filter (p : String → α → Bool) (d : Dict α) : Dict α :=
  ⟨d.entries.filter fun e => p e.1 e.2, List.Pairwise.filter _ d.ascending⟩

/-- A new value for every entry. -/
def map (f : String → α → β) (d : Dict α) : Dict β :=
  ⟨d.entries.map fun e => (e.1, f e.1 e.2), by
    simpa [KeysAscend, List.pairwise_map] using d.ascending⟩

/-- New values for a list of entries; the keys stay as they are. -/
def mapEntries? (f : String → α → Option β) : List (String × α) → Option (List (String × β))
  | [] => some []
  | e :: rest => do
    let v ← f e.1 e.2
    let vs ← mapEntries? f rest
    pure ((e.1, v) :: vs)

theorem map_fst_mapEntries? {f : String → α → Option β} {entries : List (String × α)}
    {result : List (String × β)} (h : mapEntries? f entries = some result) :
    result.map Prod.fst = entries.map Prod.fst := by
  induction entries generalizing result with
  | nil => simp [mapEntries?] at h; simp [h]
  | cons e rest ih =>
    simp only [mapEntries?, Option.bind_eq_bind, Option.bind_eq_some_iff, Option.pure_def,
      Option.some.injEq] at h
    obtain ⟨v, -, vs, hvs, rfl⟩ := h
    simp [ih hvs]

theorem keysAscend_iff {entries : List (String × α)} :
    KeysAscend entries ↔ (entries.map Prod.fst).Pairwise (· < ·) :=
  List.pairwise_map.symm

/-- A new value for every entry, or `none` as soon as one entry has none. -/
def mapM? (f : String → α → Option β) (d : Dict α) : Option (Dict β) :=
  match h : mapEntries? f d.entries with
  | none => none
  | some entries =>
    some ⟨entries, keysAscend_iff.2 (map_fst_mapEntries? h ▸ keysAscend_iff.1 d.ascending)⟩

/-! ## Laws of the view `get?` -/

@[simp] theorem get?_empty (k : String) : (empty : Dict α).get? k = none := rfl

theorem valueAt?_insertEntry (k : String) (v : α) (entries : List (String × α)) (k' : String) :
    valueAt? k' (insertEntry k v entries) = if k' = k then some v else valueAt? k' entries := by
  induction entries with
  | nil => rfl
  | cons e rest ih =>
    simp only [insertEntry]
    split
    · rfl
    · split
      · rename_i heq
        by_cases h : k' = k
        · simp [valueAt?, h]
        · simp [valueAt?, h, heq ▸ h]
      · rename_i hne
        by_cases h : k' = e.1
        · have : k' ≠ k := fun hk => hne (hk ▸ h)
          simp [valueAt?, h, h ▸ this]
        · simp [valueAt?, h, ih]

/-- **Insertion changes one key.** -/
@[simp] theorem get?_insert (d : Dict α) (k : String) (v : α) (k' : String) :
    (d.insert k v).get? k' = if k' = k then some v else d.get? k' :=
  valueAt?_insertEntry k v d.entries k'

theorem valueAt?_eq_some_iff {entries : List (String × α)} (h : KeysAscend entries) {k : String}
    {v : α} : valueAt? k entries = some v ↔ (k, v) ∈ entries := by
  induction entries with
  | nil => simp [valueAt?]
  | cons e rest ih =>
    obtain ⟨above, tail⟩ := List.pairwise_cons.1 h
    obtain ⟨ek, ev⟩ := e
    by_cases hk : k = ek
    · have : (k, v) ∉ rest := fun hm => String.lt_irrefl _ (hk ▸ above _ hm)
      simp [valueAt?, hk, hk ▸ this, eq_comm]
    · simp [valueAt?, hk, ih tail]

/-- A key has a value exactly if the pair is an entry. -/
theorem get?_eq_some_iff {d : Dict α} {k : String} {v : α} :
    d.get? k = some v ↔ (k, v) ∈ d.entries :=
  valueAt?_eq_some_iff d.ascending

/-- **A filtered dictionary** has a key if the test passes there, with the same value. -/
@[simp] theorem get?_filter (d : Dict α) (p : String → α → Bool) (k : String) :
    (d.filter p).get? k = (d.get? k).filter (p k) := by
  refine Option.ext fun v => ?_
  rw [get?_eq_some_iff, Option.filter_eq_some_iff, get?_eq_some_iff]
  simp [filter, List.mem_filter]

end Dict

/-- A finite set of names. -/
abbrev NameSet := Dict Unit

namespace NameSet

/-- The set of the names in a list. -/
def ofList (names : List String) : NameSet := Dict.ofList (names.map fun n => (n, ()))

/-- The names in ascending order, each once. -/
def toList (s : NameSet) : List String := s.keys

/-- Whether a name belongs to the set. -/
def has (s : NameSet) (name : String) : Bool := s.contains name

end NameSet

end AccessPolicy
