import AccessPolicy.Dict
import Mathlib.Data.List.Induction
import Mathlib.Data.List.Nodup

/-!
# Laws of dictionaries

A dictionary is determined by its view `get?`, so a law about two ways of building one is
proved key by key. The traversals `all` and `mapM?` run over the entries, and what they answer
is said here in terms of the function they apply, so that no later proof opens a traversal.

## Main definitions

* `Dict.union` — the entries of two dictionaries.

## Main statements

* `Dict.ext_get?`, `Dict.ext_value` — two dictionaries with the same values are equal.
* `Dict.all_iff` — a test over a dictionary is a test of every value under its key.
* `Dict.ofList_perm` — the order of entries without a repeated key does not matter.
* `Dict.ofList_map` — changing the values of a list of entries and building a dictionary of it
  can be done in either order.
* `Dict.any_mapM?_all` — testing the values that `mapM?` makes is testing the old ones.
* `Dict.mapM?_eq_none_iff` — one entry without a new value leaves no dictionary.
* `Dict.get?_union`, `Dict.filter_union_filter` — what a union holds, and that of two parts.
* `NameSet.ext_has` — two sets with the same names are equal.
-/
namespace AccessPolicy.Dict

variable {α β : Type}

/-! ## Equality -/

/-- An entry does not come before itself, so no entry of an ascending list occurs twice. -/
theorem nodup_of_keysAscend {entries : List (String × α)} (h : KeysAscend entries) :
    entries.Nodup := by
  refine List.Pairwise.imp ?_ h
  intro a b hab heq
  subst heq
  exact String.lt_irrefl _ hab

/-- **A dictionary is determined by its values.** -/
theorem ext_get? {d e : Dict α} (h : ∀ k, d.get? k = e.get? k) : d = e := by
  apply Dict.ext
  have hmem : ∀ x, x ∈ d.entries ↔ x ∈ e.entries := by
    rintro ⟨k, v⟩
    rw [← get?_eq_some_iff, ← get?_eq_some_iff, h k]
  have hperm : d.entries.Perm e.entries :=
    (List.perm_ext_iff_of_nodup (nodup_of_keysAscend d.ascending)
      (nodup_of_keysAscend e.ascending)).2 hmem
  refine hperm.eq_of_pairwise ?_ d.ascending e.ascending
  intro a b _ _ hab hba
  exact absurd hba (String.lt_asymm hab)

/-- Two dictionaries are equal if every value stands under the same keys in both. -/
theorem ext_value {d e : Dict α} (h : ∀ k v, d.get? k = some v ↔ e.get? k = some v) : d = e :=
  ext_get? fun k => Option.ext (h k)

/-- A key is one of those that have a value. -/
theorem mem_keys {d : Dict α} {k : String} : k ∈ d.keys ↔ ∃ v, d.get? k = some v := by
  constructor
  · intro hk
    obtain ⟨⟨_, v⟩, hentry, rfl⟩ := List.mem_map.1 hk
    exact ⟨v, get?_eq_some_iff.2 hentry⟩
  · rintro ⟨v, hv⟩
    exact List.mem_map.2 ⟨(k, v), get?_eq_some_iff.1 hv, rfl⟩

/-! ## Building of a list -/

@[simp] theorem ofList_append_singleton (entries : List (String × α)) (e : String × α) :
    ofList (entries ++ [e]) = (ofList entries).insert e.1 e.2 := by
  simp [ofList, List.foldl_append]

/-- The keys of a dictionary built of a list are those of the list. -/
theorem contains_ofList {entries : List (String × α)} {k : String} :
    (ofList entries).contains k = true ↔ k ∈ entries.map Prod.fst := by
  induction entries using List.reverseRecOn with
  | nil => simp [ofList, contains]
  | append_singleton entries e ih =>
    rw [contains] at ih
    rw [ofList_append_singleton, contains, get?_insert]
    by_cases hk : k = e.1
    · simp [hk]
    · simp [hk, ih]

/-- The values of a dictionary built of a list are those of the list. -/
theorem mem_of_get?_ofList {entries : List (String × α)} {k : String} {v : α}
    (h : (ofList entries).get? k = some v) : (k, v) ∈ entries := by
  induction entries using List.reverseRecOn with
  | nil => cases h
  | append_singleton entries e ih =>
    rw [ofList_append_singleton, get?_insert] at h
    by_cases hk : k = e.1
    · rw [if_pos hk, Option.some.injEq] at h
      subst hk h
      simp
    · rw [if_neg hk] at h
      exact List.mem_append_left _ (ih h)

/-- Under a key that occurs once stands the value that is listed with it. -/
theorem get?_ofList_of_mem {entries : List (String × α)} (hnodup : (entries.map Prod.fst).Nodup)
    {k : String} {v : α} (h : (k, v) ∈ entries) : (ofList entries).get? k = some v := by
  have hkey : (ofList entries).contains k = true :=
    contains_ofList.2 (List.mem_map_of_mem h)
  obtain ⟨w, hw⟩ := Option.isSome_iff_exists.1 hkey
  have hpair : (k, w) = (k, v) := List.inj_on_of_nodup_map hnodup (mem_of_get?_ofList hw) h rfl
  rw [hw, (Prod.mk.inj hpair).2]

/-- **The order of a list of entries** does not matter if no key is repeated. -/
theorem ofList_perm {entries entries' : List (String × α)}
    (hnodup : (entries.map Prod.fst).Nodup) (h : entries.Perm entries') :
    ofList entries = ofList entries' := by
  have hnodup' : (entries'.map Prod.fst).Nodup := (h.map Prod.fst).nodup hnodup
  apply ext_value
  intro k v
  constructor
  · intro hv
    exact get?_ofList_of_mem hnodup' (h.mem_iff.1 (mem_of_get?_ofList hv))
  · intro hv
    exact get?_ofList_of_mem hnodup (h.mem_iff.2 (mem_of_get?_ofList hv))

/-- A key above all others is put at the end. -/
theorem insertEntry_eq_append {k : String} {v : α} {entries : List (String × α)}
    (h : ∀ e ∈ entries, e.1 < k) : insertEntry k v entries = entries ++ [(k, v)] := by
  induction entries with
  | nil => rfl
  | cons e rest ih =>
    have hlt : e.1 < k := h e List.mem_cons_self
    have hne : k ≠ e.1 := by
      intro heq
      exact String.lt_irrefl k (heq ▸ hlt)
    rw [insertEntry, if_neg (String.lt_asymm hlt), if_neg hne, List.cons_append,
      ih fun x hx => h x (List.mem_cons_of_mem _ hx)]

/-- **A list whose keys ascend** is the list of entries of the dictionary built of it. -/
theorem entries_ofList {entries : List (String × α)} (h : KeysAscend entries) :
    (ofList entries).entries = entries := by
  induction entries using List.reverseRecOn with
  | nil => rfl
  | append_singleton entries e ih =>
    obtain ⟨hinit, -, habove⟩ := List.pairwise_append.1 h
    rw [ofList_append_singleton]
    simp only [insert, ih hinit]
    exact insertEntry_eq_append fun x hx => habove x hx e (List.mem_singleton_self e)

@[simp] theorem ofList_entries (d : Dict α) : ofList d.entries = d :=
  Dict.ext (entries_ofList d.ascending)

/-! ## New values under old keys -/

theorem valueAt?_map (f : String → α → β) (k : String) (entries : List (String × α)) :
    valueAt? k (entries.map fun e => (e.1, f e.1 e.2)) = (valueAt? k entries).map (f k) := by
  induction entries with
  | nil => rfl
  | cons e rest ih =>
    by_cases hk : k = e.1
    · subst hk
      simp [valueAt?]
    · simp [valueAt?, hk, ih]

@[simp] theorem get?_map (d : Dict α) (f : String → α → β) (k : String) :
    (d.map f).get? k = (d.get? k).map (f k) :=
  valueAt?_map f k d.entries

@[simp] theorem keys_map (d : Dict α) (f : String → α → β) : (d.map f).keys = d.keys := by
  simp [keys, map]

theorem map_insert (d : Dict α) (f : String → α → β) (k : String) (v : α) :
    (d.insert k v).map f = (d.map f).insert k (f k v) := by
  apply ext_get?
  intro k'
  by_cases hk : k' = k
  · subst hk
    simp
  · simp [hk]

/-- Entries under different keys can be put in either order. -/
theorem insert_comm {k l : String} (hne : k ≠ l) (d : Dict α) (v w : α) :
    (d.insert k v).insert l w = (d.insert l w).insert k v := by
  apply ext_get?
  intro k'
  by_cases hk : k' = k
  · subst hk
    simp [hne]
  · simp [hk]

/-- **Values may be changed before or after** a list of entries becomes a dictionary. -/
theorem ofList_map (f : String → α → β) (entries : List (String × α)) :
    ofList (entries.map fun e => (e.1, f e.1 e.2)) = (ofList entries).map f := by
  induction entries using List.reverseRecOn with
  | nil => rfl
  | append_singleton entries e ih =>
    rw [List.map_append, List.map_singleton, ofList_append_singleton, ih,
      ofList_append_singleton, map_insert]

/-- Replacing the value under a key that occurs is inserting the new value. -/
theorem map_eq_insert {d : Dict α} {k : String} (h : d.contains k = true) (v : α) :
    (d.map fun k' old => if k' = k then v else old) = d.insert k v := by
  apply ext_get?
  intro k'
  rw [get?_map, get?_insert]
  by_cases hk : k' = k
  · subst hk
    obtain ⟨old, hold⟩ := Option.isSome_iff_exists.1 h
    simp [hold]
  · simp [hk]

/-! ## Two dictionaries together -/

/-- The entries of two dictionaries. Under a key that both have stands the value of the first. -/
def union (d e : Dict α) : Dict α := d.entries.foldr (fun x u => u.insert x.1 x.2) e

theorem get?_foldr_insert (entries : List (String × α)) (e : Dict α) (k : String) :
    (entries.foldr (fun x u => u.insert x.1 x.2) e).get? k =
      (valueAt? k entries).or (e.get? k) := by
  induction entries with
  | nil => rfl
  | cons x rest ih =>
    rw [List.foldr_cons, get?_insert, valueAt?, ih]
    by_cases hk : k = x.1
    · rw [if_pos hk, if_pos hk, Option.some_or]
    · rw [if_neg hk, if_neg hk]

/-- **A union** has the values of the first dictionary, and those of the second under all other
keys. -/
@[simp] theorem get?_union (d e : Dict α) (k : String) :
    (d.union e).get? k = (d.get? k).or (e.get? k) :=
  get?_foldr_insert d.entries e k

/-- **Two parts of a dictionary** unite to the part under the keys of either. -/
theorem filter_union_filter (d : Dict α) (p q : String → α → Bool) :
    (d.filter p).union (d.filter q) = d.filter fun k v => p k v || q k v := by
  apply ext_get?
  intro k
  rw [get?_union, get?_filter, get?_filter, get?_filter]
  cases d.get? k with
  | none => rfl
  | some v =>
    cases hp : p k v with
    | true => simp [Option.filter_some, hp]
    | false => simp [Option.filter_some, hp]

/-! ## Traversals -/

/-- A test over a dictionary is a test of every value under its key. -/
theorem all_iff {d : Dict α} {p : String → α → Bool} :
    d.all p = true ↔ ∀ k v, d.get? k = some v → p k v = true := by
  rw [all, List.all_eq_true]
  constructor
  · intro h k v hk
    exact h (k, v) (get?_eq_some_iff.1 hk)
  · rintro h ⟨k, v⟩ hmem
    exact h k v (get?_eq_some_iff.2 hmem)

/-- Two tests that agree on every value under its key agree on the dictionary. -/
theorem all_congr {d : Dict α} {p q : String → α → Bool}
    (h : ∀ k v, d.get? k = some v → p k v = q k v) : d.all p = d.all q := by
  rw [Bool.eq_iff_iff, all_iff, all_iff]
  refine forall_congr' fun k => forall_congr' fun v => imp_congr_right ?_
  intro hk
  rw [h k v hk]

theorem map_entries_mapM? (f : String → α → Option β) (d : Dict α) :
    (d.mapM? f).map entries = mapEntries? f d.entries := by
  rw [mapM?]
  split
  · rename_i h
    exact h.symm
  · rename_i h
    exact h.symm

/-- What the values made by `mapEntries?` are tested for, the old ones can be tested for: an
entry without a new value is one that fails. -/
theorem any_mapEntries?_all {f : String → α → Option β} {p : String → α → Bool}
    {q : String → β → Bool} (h : ∀ k v, (f k v).any (q k) = p k v)
    (entries : List (String × α)) :
    (mapEntries? f entries).any (fun es => es.all fun e => q e.1 e.2) =
      entries.all fun e => p e.1 e.2 := by
  induction entries with
  | nil => rfl
  | cons e rest ih =>
    rw [List.all_cons, ← h, ← ih]
    cases hv : f e.1 e.2 with
    | none => simp [mapEntries?, hv]
    | some v =>
      cases hs : mapEntries? f rest with
      | none => simp [mapEntries?, hv, hs]
      | some es => simp [mapEntries?, hv, hs]

/-- **Testing new values is testing old ones**, over a whole dictionary. -/
theorem any_mapM?_all {f : String → α → Option β} {p : String → α → Bool}
    {q : String → β → Bool} (h : ∀ k v, (f k v).any (q k) = p k v) (d : Dict α) :
    (d.mapM? f).any (fun e => e.all q) = d.all p := by
  have key := any_mapEntries?_all h d.entries
  rw [← map_entries_mapM?, Option.any_map] at key
  exact key

theorem mapEntries?_eq_none_iff {f : String → α → Option β} {entries : List (String × α)} :
    mapEntries? f entries = none ↔ ∃ e ∈ entries, f e.1 e.2 = none := by
  induction entries with
  | nil => simp [mapEntries?]
  | cons e rest ih =>
    have hstep : mapEntries? f (e :: rest) = none ↔
        f e.1 e.2 = none ∨ mapEntries? f rest = none := by
      rw [mapEntries?]
      cases f e.1 e.2 with
      | none => simp
      | some v => cases mapEntries? f rest <;> simp
    rw [hstep, ih]
    simp only [List.mem_cons, exists_eq_or_imp]

/-- **One entry without a new value** leaves no dictionary, and nothing else does. -/
theorem mapM?_eq_none_iff {f : String → α → Option β} {d : Dict α} :
    d.mapM? f = none ↔ ∃ k v, d.get? k = some v ∧ f k v = none := by
  rw [← Option.map_eq_none_iff (f := entries), map_entries_mapM?, mapEntries?_eq_none_iff,
    Prod.exists]
  simp only [get?_eq_some_iff]

theorem valueAt?_mapEntries? {f : String → α → Option β} {entries : List (String × α)}
    {result : List (String × β)} (h : mapEntries? f entries = some result) (k : String) :
    valueAt? k result = (valueAt? k entries).bind (f k) := by
  induction entries generalizing result with
  | nil =>
    cases h
    rfl
  | cons e rest ih =>
    simp only [mapEntries?, Option.bind_eq_bind, Option.bind_eq_some_iff, Option.pure_def,
      Option.some.injEq] at h
    obtain ⟨v, hv, vs, hvs, rfl⟩ := h
    by_cases hk : k = e.1
    · subst hk
      simp [valueAt?, hv]
    · simp [valueAt?, hk, ih hvs]

theorem mapEntries?_of_mapM? {f : String → α → Option β} {d : Dict α} {e : Dict β}
    (h : d.mapM? f = some e) : mapEntries? f d.entries = some e.entries := by
  rw [← map_entries_mapM?, h]
  rfl

theorem mapEntries?_map {γ : Type} {f : String → α → β} {g : String → β → Option γ}
    {h : String → α → Option γ} {entries : List (String × α)}
    (hfg : ∀ e ∈ entries, g e.1 (f e.1 e.2) = h e.1 e.2) :
    mapEntries? g (entries.map fun e => (e.1, f e.1 e.2)) = mapEntries? h entries := by
  induction entries with
  | nil => rfl
  | cons e rest ih =>
    obtain ⟨he, hrest⟩ := List.forall_mem_cons.1 hfg
    rw [List.map_cons, mapEntries?, mapEntries?, he, ih hrest]

/-- Values that were changed before give the same new values, if every single one does. -/
theorem mapM?_map {γ : Type} {f : String → α → β} {g : String → β → Option γ}
    {h : String → α → Option γ} {d : Dict α}
    (hfg : ∀ k v, d.get? k = some v → g k (f k v) = h k v) : (d.map f).mapM? g = d.mapM? h := by
  have hentries : mapEntries? g (d.map f).entries = mapEntries? h d.entries :=
    mapEntries?_map fun e he => hfg e.1 e.2 (get?_eq_some_iff.2 he)
  rw [← map_entries_mapM?, ← map_entries_mapM?] at hentries
  exact Option.map_injective (fun _ _ => Dict.ext) hentries

/-- Two functions that agree on every value under its key make the same dictionary, or none. -/
theorem mapM?_congr {f g : String → α → Option β} {d : Dict α}
    (h : ∀ k v, d.get? k = some v → f k v = g k v) : d.mapM? f = d.mapM? g := by
  have hself : (d.map fun _ v => v) = d := by
    apply ext_get?
    intro k
    rw [get?_map, Option.map_id_fun', id_eq]
  calc d.mapM? f = (d.map fun _ v => v).mapM? f := by rw [hself]
    _ = d.mapM? g := mapM?_map h

/-- The values of the dictionary that `mapM?` makes are the new ones. -/
theorem get?_mapM? {f : String → α → Option β} {d : Dict α} {e : Dict β}
    (h : d.mapM? f = some e) (k : String) : e.get? k = (d.get? k).bind (f k) :=
  valueAt?_mapEntries? (mapEntries?_of_mapM? h) k

/-- The keys of the dictionary that `mapM?` makes are the old ones. -/
theorem keys_mapM? {f : String → α → Option β} {d : Dict α} {e : Dict β}
    (h : d.mapM? f = some e) : e.keys = d.keys :=
  map_fst_mapEntries? (mapEntries?_of_mapM? h)

end AccessPolicy.Dict

/-! ## Sets of names -/

namespace AccessPolicy

/-- The names in a set built of a list are those of the list. -/
theorem NameSet.has_ofList {names : List String} {name : String} :
    (ofList names).has name = true ↔ name ∈ names := by
  rw [has, ofList, Dict.contains_ofList]
  simp

/-- The names of a set ascend, so none of them is listed twice. -/
theorem NameSet.pairwise_toList (s : NameSet) : s.toList.Pairwise (· < ·) :=
  Dict.keysAscend_iff.1 s.ascending

theorem NameSet.mem_toList {s : NameSet} {name : String} :
    name ∈ s.toList ↔ s.has name = true := by
  rw [has, Dict.contains, Option.isSome_iff_exists]
  exact Dict.mem_keys

/-- Names that ascend are the list of the set that is built of them. -/
theorem NameSet.toList_ofList {names : List String} (h : names.Pairwise (· < ·)) :
    (ofList names).toList = names := by
  have hascend : KeysAscend (names.map fun n => (n, ())) := by
    simpa [Dict.keysAscend_iff, Function.comp_def] using h
  rw [toList, Dict.keys, ofList, Dict.entries_ofList hascend]
  simp [Function.comp_def]

/-- Two sets of names are equal if the same names belong to them. -/
theorem NameSet.ext_has {s t : NameSet} (h : ∀ name, s.has name = true ↔ t.has name = true) :
    s = t := by
  apply Dict.ext_value
  intro name value
  -- A set holds no values, so looking a name up tells no more than whether it belongs to the set.
  have hvalue : ∀ q : NameSet, q.get? name = some value ↔ q.has name = true := by
    intro q
    rw [NameSet.has, Dict.contains]
    cases q.get? name <;> simp
  rw [hvalue, hvalue, h name]

end AccessPolicy
