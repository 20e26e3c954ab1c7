import AccessPolicy.Text.Lower
import Mathlib.Data.List.Infix

/-!
# Lower-casing a part of a text

Texts are lower-cased letter by letter, but for the capital sigma, whose form depends on the
letters around it. So the lower-case form of a part of a text is the lower-case form of the part
taken alone, unless there is a capital sigma in it that would have the other form in the text. This
can only happen at the rim: to the left of the sigma or to its right nothing in the part may tell
where the word ends, and then what stands around the part decides.

The case of the ASCII letters plays no role in any of this.

## Main definitions

* `Text.lowerWithin` — the lower-case form of a part of a text.
* `Text.isOpenSigma`, `Text.holdsOpenSigma` — what stands around a part decides on a sigma in it.

## Main statements

* `Text.lowerFrom_append` — the lower-case form of a text is put together of those of its parts.
* `Text.lowerWithin_eq` — a part without an open sigma has the same form everywhere.
* `Text.lowerWithin_ne_of_holdsOpenSigma` — a part with an open sigma has another form next to some
  letter.
-/
namespace AccessPolicy.Text

/-! ## Letter case of ASCII letters -/

/-- What holds of the small form of every capital ASCII letter as of the letter itself holds of the
small form of every character. -/
theorem apply_toLower {α : Type} {f : Char → α}
    (h : ∀ n ∈ List.range' 65 26, f (Char.ofNat n).toLower = f (Char.ofNat n)) (c : Char) :
    f c.toLower = f c := by
  by_cases hcapital : 'A'.val ≤ c.val ∧ c.val ≤ 'Z'.val
  · have hfirst : 65 ≤ c.toNat := UInt32.le_iff_toNat_le.1 hcapital.1
    have hlast : c.toNat ≤ 90 := UInt32.le_iff_toNat_le.1 hcapital.2
    have hletter := h c.toNat (List.mem_range'_1.2 (by omega))
    rwa [Char.ofNat_toNat] at hletter
  · have hself : c.toLower = c := dif_neg hcapital
    rw [hself]

theorem isCased_toLower (c : Char) : isCased c.toLower = isCased c :=
  apply_toLower (by decide +kernel) c

theorem isCaseIgnorable_toLower (c : Char) : isCaseIgnorable c.toLower = isCaseIgnorable c :=
  apply_toLower (by decide +kernel) c

theorem lowerChar_toLower (c : Char) : lowerChar c.toLower = lowerChar c :=
  apply_toLower (by decide +kernel) c

theorem toLower_eq_sigma_iff (c : Char) : c.toLower = 'Σ' ↔ c = 'Σ' :=
  decide_eq_decide.1 <| apply_toLower (f := fun c => decide (c = 'Σ')) (by decide +kernel) c

/-- A property that does not see the case of ASCII letters is the same of characters that differ in
it only. -/
theorem eq_of_toLower_eq {α : Type} {f : Char → α} (hf : ∀ c : Char, f c.toLower = f c) {c d : Char}
    (h : c.toLower = d.toLower) : f c = f d := by
  rw [← hf c, ← hf d, h]

/-! ## Where words end -/

variable {before after xs ys : List Char}

theorem dropWhile_isCaseIgnorable_map (text : List Char) :
    (text.map Char.toLower).dropWhile isCaseIgnorable =
      (text.dropWhile isCaseIgnorable).map Char.toLower := by
  rw [List.dropWhile_map]
  congr 2
  funext c
  exact isCaseIgnorable_toLower c

/-- The case of ASCII letters does not tell where a word ends. -/
theorem meetsCased_congr (h : xs.map Char.toLower = ys.map Char.toLower) :
    meetsCased xs = meetsCased ys := by
  have hmap : ∀ text : List Char, meetsCased text = meetsCased (text.map Char.toLower) := by
    intro text
    rw [meetsCased, meetsCased, dropWhile_isCaseIgnorable_map, List.head?_map, Option.any_map]
    congr 1
    funext c
    exact (isCased_toLower c).symm
  rw [hmap xs, hmap ys, h]

/-- Only what is passed over leaves it open what is met. -/
theorem meetsCased_append (xs ys : List Char) :
    meetsCased (xs ++ ys) = if xs.all isCaseIgnorable then meetsCased ys else meetsCased xs := by
  induction xs with
  | nil => simp
  | cons x xs ih =>
    by_cases hx : isCaseIgnorable x
    · simpa [meetsCased, hx] using ih
    · simp [meetsCased, hx]

theorem meetsCased_of_all (h : xs.all isCaseIgnorable = true) : meetsCased xs = false := by
  have happend := meetsCased_append xs []
  rw [List.append_nil, if_pos h] at happend
  exact happend

/-! ## Capital sigmas -/

/-- Whether the form of a capital sigma between the characters `before` it, the nearest one first,
and those `after` it depends on what stands around these. Either it is left open whether a word
reaches up to the sigma, and the word does not go on behind it; or a word does reach up to it, and
it is left open whether the word goes on. -/
def isOpenSigma (before after : List Char) : Bool :=
  (before.all isCaseIgnorable && !meetsCased after) ||
    (meetsCased before && after.all isCaseIgnorable)

/-- **A capital sigma that is not open** has the same form whatever stands around. -/
theorem lowerSigma_append (h : isOpenSigma before after = false) (xs ys : List Char) :
    lowerSigma (before ++ xs) (after ++ ys) = lowerSigma before after := by
  rw [isOpenSigma, Bool.or_eq_false_iff] at h
  obtain ⟨hbefore, hafter⟩ := h
  rw [lowerSigma, lowerSigma, meetsCased_append, meetsCased_append]
  by_cases hall : before.all isCaseIgnorable = true
  · -- A letter behind the sigma makes sure that it ends no word.
    have hmeets : meetsCased after = true := by simpa [hall] using hbefore
    have hnot : ¬ after.all isCaseIgnorable = true := by
      intro hpassed
      rw [meetsCased_of_all hpassed] at hmeets
      cases hmeets
    simp [hmeets, hnot]
  · by_cases hmeets : meetsCased before = true
    · have hnot : ¬ after.all isCaseIgnorable = true := by simpa [hmeets] using hafter
      simp [hall, hnot]
    · simp [hall, hmeets]

/-- An open sigma has the other form after any letter, or before any letter. -/
theorem lowerSigma_ne (h : isOpenSigma before after = true) :
    (∀ x, meetsCased [x] = true → lowerSigma (before ++ [x]) after ≠ lowerSigma before after) ∨
      ∀ x, meetsCased [x] = true → lowerSigma before (after ++ [x]) ≠ lowerSigma before after := by
  rw [isOpenSigma, Bool.or_eq_true, Bool.and_eq_true, Bool.and_eq_true] at h
  rcases h with ⟨hall, hafter⟩ | ⟨hbefore, hall⟩
  · refine .inl ?_
    intro x hx
    rw [lowerSigma, lowerSigma, meetsCased_append, if_pos hall, meetsCased_of_all hall, hx]
    simp [hafter]
  · refine .inr ?_
    intro x hx
    rw [lowerSigma, lowerSigma, meetsCased_append, if_pos hall, meetsCased_of_all hall, hx, hbefore]
    simp

/-! ## Parts of a text -/

/-- The lower-case form of a part of a text, where the part follows the characters `before` and is
followed by the characters `after`. -/
def lowerWithin (before : List Char) : List Char → List Char → List Char
  | [], _ => []
  | c :: rest, after =>
    (if c = 'Σ' then [lowerSigma before (rest ++ after)] else lowerChar c) ++
      lowerWithin (c :: before) rest after

/-- Whether a capital sigma in a part of a text is open, where the part begins after the characters
`before`. -/
def holdsOpenSigma (before : List Char) : List Char → Bool
  | [] => false
  | c :: rest => decide (c = 'Σ') && isOpenSigma before rest || holdsOpenSigma (c :: before) rest

theorem lowerFrom_eq_lowerWithin (text : List Char) :
    ∀ before, lowerFrom before text = lowerWithin before text [] := by
  induction text with
  | nil => exact fun _ => rfl
  | cons c rest ih =>
    intro before
    rw [lowerFrom, lowerWithin, ih, List.append_nil]

theorem lowerWithin_append (xs ys after : List Char) : ∀ before,
    lowerWithin before (xs ++ ys) after =
      lowerWithin before xs (ys ++ after) ++ lowerWithin (xs.reverse ++ before) ys after := by
  induction xs with
  | nil => exact fun _ => rfl
  | cons x xs ih =>
    intro before
    simp [lowerWithin, ih]

/-- **The lower-case form of a text** is put together of those of its parts. -/
theorem lowerFrom_append (xs ys before : List Char) :
    lowerFrom before (xs ++ ys) =
      lowerWithin before xs ys ++ lowerFrom (xs.reverse ++ before) ys := by
  rw [lowerFrom_eq_lowerWithin, lowerWithin_append, List.append_nil, lowerFrom_eq_lowerWithin]

/-- How long the form is does not depend on what stands around. -/
theorem length_lowerWithin (text : List Char) : ∀ before before' after after',
    (lowerWithin before text after).length = (lowerWithin before' text after').length := by
  induction text with
  | nil => exact fun _ _ _ _ => rfl
  | cons c rest ih =>
    intro before before' after after'
    rw [lowerWithin, lowerWithin, List.length_append, List.length_append,
      ih (c :: before) (c :: before') after after']
    by_cases hc : c = 'Σ' <;> simp [hc]

/-! ### Parts without an open sigma -/

theorem lowerSigma_congr {before' after' : List Char}
    (hbefore : before'.map Char.toLower = before.map Char.toLower)
    (hafter : after'.map Char.toLower = after.map Char.toLower) :
    lowerSigma before' after' = lowerSigma before after := by
  rw [lowerSigma, lowerSigma, meetsCased_congr hbefore, meetsCased_congr hafter]

/-- **A part without an open sigma** has the same lower-case form wherever it stands, and in
whatever case its ASCII letters are. -/
theorem lowerWithin_eq {text : List Char} (xs ys : List Char) :
    ∀ {before before' text' : List Char}, holdsOpenSigma before text = false →
      before'.map Char.toLower = before.map Char.toLower →
      text'.map Char.toLower = text.map Char.toLower →
      lowerWithin (before' ++ xs) text' ys = lowerWithin before text [] := by
  induction text with
  | nil =>
    intro before before' text' _ _ htext
    rw [List.map_nil, List.map_eq_nil_iff] at htext
    rw [htext]
    rfl
  | cons c rest ih =>
    intro before before' text' hopen hbefore htext
    obtain ⟨c', rest', rfl, hc, hrest⟩ := List.map_eq_cons_iff.1 htext
    rw [holdsOpenSigma, Bool.or_eq_false_iff] at hopen
    have hbefore' : (c' :: before').map Char.toLower = (c :: before).map Char.toLower := by
      simp [hc, hbefore]
    have htail := ih hopen.2 hbefore' hrest
    have hsigma : c' = 'Σ' ↔ c = 'Σ' := by
      rw [← toLower_eq_sigma_iff c', hc, toLower_eq_sigma_iff]
    rw [lowerWithin, lowerWithin, List.append_nil]
    rw [List.cons_append] at htail
    rw [htail]
    congr 1
    by_cases hcsigma : c = 'Σ'
    · have hnotOpen : isOpenSigma before rest = false := by simpa [hcsigma] using hopen.1
      have hcongr : lowerSigma (before' ++ xs) (rest' ++ ys) =
          lowerSigma (before ++ xs) (rest ++ ys) :=
        lowerSigma_congr (by simp [hbefore]) (by simp [hrest])
      rw [if_pos (hsigma.2 hcsigma), if_pos hcsigma, hcongr, lowerSigma_append hnotOpen]
    · rw [if_neg (mt hsigma.1 hcsigma), if_neg hcsigma]
      exact eq_of_toLower_eq lowerChar_toLower hc

/-! ### Parts with an open sigma -/

theorem exists_isOpenSigma {text : List Char} : ∀ {before : List Char},
    holdsOpenSigma before text = true →
      ∃ xs ys, text = xs ++ 'Σ' :: ys ∧ isOpenSigma (xs.reverse ++ before) ys = true := by
  induction text with
  | nil => exact fun h => nomatch h
  | cons c rest ih =>
    intro before h
    rw [holdsOpenSigma, Bool.or_eq_true, Bool.and_eq_true, decide_eq_true_eq] at h
    rcases h with ⟨rfl, hopen⟩ | hrest
    · exact ⟨[], rest, rfl, hopen⟩
    · obtain ⟨xs, ys, rfl, hopen⟩ := ih hrest
      exact ⟨c :: xs, ys, rfl, by simpa using hopen⟩

/-- Two forms of a part are different if a sigma in it has two forms. -/
theorem lowerWithin_ne {xs ys before after before' after' : List Char}
    (h : lowerSigma (xs.reverse ++ before) (ys ++ after) ≠
      lowerSigma (xs.reverse ++ before') (ys ++ after')) :
    lowerWithin before (xs ++ 'Σ' :: ys) after ≠ lowerWithin before' (xs ++ 'Σ' :: ys) after' := by
  intro heq
  rw [lowerWithin_append, lowerWithin_append] at heq
  have hlength := length_lowerWithin xs before before' ('Σ' :: ys ++ after) ('Σ' :: ys ++ after')
  have htail := List.append_inj_right heq hlength
  rw [lowerWithin, lowerWithin, if_pos rfl, if_pos rfl] at htail
  exact h (List.cons.inj htail).1

/-- **A part with an open sigma** has another form than alone after any letter, or before any
letter. -/
theorem lowerWithin_ne_of_holdsOpenSigma {text : List Char} (h : holdsOpenSigma [] text = true) :
    (∀ x, meetsCased [x] = true → lowerWithin [x] text [] ≠ lowerWithin [] text []) ∨
      ∀ x, meetsCased [x] = true → lowerWithin [] text [x] ≠ lowerWithin [] text [] := by
  obtain ⟨xs, ys, rfl, hopen⟩ := exists_isOpenSigma h
  rw [List.append_nil] at hopen
  rcases lowerSigma_ne hopen with hbefore | hafter
  · exact .inl fun x hx => lowerWithin_ne (by simpa using hbefore x hx)
  · exact .inr fun x hx => lowerWithin_ne (by simpa using hafter x hx)

end AccessPolicy.Text
