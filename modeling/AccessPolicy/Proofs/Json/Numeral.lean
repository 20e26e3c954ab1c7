import AccessPolicy.Proofs.Json.Lexing
import AccessPolicy.Proofs.Number.Shortest
import Mathlib.Tactic.Ring

/-!
# The text of a number is a numeral

An integer is written in full, and any other number as the shortest decimal that rounds to it. Both
are numerals, with or without a sign in front: they are taken as numbers up to their end, whatever
stands behind, unless it continues them. What is taken for the decimal has the same magnitude in all
forms of its text, with the point among the digits, in front of them or behind them, and with a
power of ten.

A numeral that is no integer is read by steps that round, so that the number that was written need
not come out again. But it is determined: it is the one that the magnitude of the numeral rounds to.

## Main definitions

* `Numeral.magnitude` — what a numeral says, sign apart, as a rational number.
* `Numeral.Writes` — a numeral writes a number.

## Main statements

* `Token.takesDecimal_layOut` — the digits and the power of ten of a decimal can be told from its
  text.
* `Number.exists_numeral`, `Number.render_append_inj` — the text of a number writes it and no other.
-/
namespace AccessPolicy

open Grammar Token

/-! ## Digits -/

section Digits

variable {n c : Nat}

theorem isDigit_of_mem_zeros {z : Nat} : ∀ c ∈ List.replicate z '0', isDigit c = true := by
  intro c hc
  rw [(List.mem_replicate.1 hc).2]
  rfl

theorem isDigits_zero : IsDigits ['0'] :=
  ⟨List.cons_ne_nil _ _, isDigit_of_mem_zeros (z := 1)⟩

theorem isDigits_toDigits (n : Nat) : IsDigits (Nat.toDigits 10 n) := by
  refine ⟨Nat.toDigits_ne_nil, fun c hc => ?_⟩
  have hdigit := Nat.isDigit_of_mem_toDigits (by decide) (by decide) hc
  simpa [isDigit, Char.isDigit, Char.le_def] using hdigit

theorem head?_toDigits (hn : n ≠ 0) : (Nat.toDigits 10 n).head? ≠ some '0' := by
  induction n using Nat.strongRecOn with
  | ind n ih =>
    rcases Nat.lt_or_ge n 10 with hlt | hge
    · have hdigit : ∀ k < 10, k ≠ 0 → Nat.digitChar k ≠ '0' := by decide
      rw [Nat.toDigits_of_lt_base hlt]
      exact fun h => hdigit n hlt hn (Option.some.inj h)
    · rw [Nat.toDigits_of_base_le (by decide) hge,
        List.head?_append_of_ne_nil _ Nat.toDigits_ne_nil]
      exact ih (n / 10) (by omega) (by omega)

/-- The digits of a natural number are those of a numeral in front of its point. -/
theorem isWhole_toDigits (n : Nat) : IsWhole (Nat.toDigits 10 n) := by
  rcases eq_or_ne n 0 with rfl | hn
  · exact .inl (Nat.toDigits_zero 10)
  · exact .inr ⟨isDigits_toDigits n, head?_toDigits hn⟩

/-- Zeros make up the digits that are not significant. -/
theorem exists_significantDigits (c : Nat) :
    ∃ z, Nat.toDigits 10 c = Binary64.significantDigits c ++ List.replicate z '0' := by
  refine ⟨((Nat.toDigits 10 c).reverse.takeWhile (· = '0')).length, ?_⟩
  have hzeros : (Nat.toDigits 10 c).reverse.takeWhile (· = '0') =
      List.replicate ((Nat.toDigits 10 c).reverse.takeWhile (· = '0')).length '0' := by
    refine List.eq_replicate_of_mem fun b hb => ?_
    simpa using List.mem_takeWhile_imp hb
  have hparts := List.takeWhile_append_dropWhile (p := (· = '0')) (l := (Nat.toDigits 10 c).reverse)
  have hreverse := congrArg List.reverse hparts
  rw [List.reverse_append, List.reverse_reverse, hzeros, List.reverse_replicate] at hreverse
  exact hreverse.symm

theorem isDigits_significantDigits (hc : c ≠ 0) : IsDigits (Binary64.significantDigits c) := by
  obtain ⟨z, hz⟩ := exists_significantDigits c
  constructor
  · intro hnil
    have hvalue := congrArg (Nat.ofDigitChars 10 · 0) hz
    simp only [hnil, List.nil_append, Nat.ofDigitChars_ten_toDigits,
      Nat.ofDigitChars_replicate_zero, Nat.mul_zero] at hvalue
    exact hc hvalue
  · intro d hd
    exact (isDigits_toDigits c).2 d (hz ▸ List.mem_append_left _ hd)

theorem head?_significantDigits (hc : c ≠ 0) :
    (Binary64.significantDigits c).head? ≠ some '0' := by
  obtain ⟨z, hz⟩ := exists_significantDigits c
  have hhead := head?_toDigits hc
  rwa [hz, List.head?_append_of_ne_nil _ (isDigits_significantDigits hc).1] at hhead

end Digits

/-! ## What a numeral writes -/

namespace Numeral

variable {t : Numeral}

/-- The magnitude that a numeral writes. -/
def magnitude (t : Numeral) : ℚ :=
  Nat.ofDigitChars 10 (t.whole ++ t.places) 0 * 10 ^ (t.exponent.getD 0 - t.places.length)

/-- A numeral writes a number: an integer in full, and any other number by a decimal that is rounded
to it. -/
def Writes (t : Numeral) : Number → Prop
  | .int n => t.isWhole = true ∧
      n = if t.negative then -(Nat.ofDigitChars 10 t.whole 0 : Int)
        else Nat.ofDigitChars 10 t.whole 0
  | .float x => t.isWhole = false ∧ x.negative = t.negative ∧
      x.units = Binary64.nearestRat (t.magnitude * (Nat.pow 2 1074 : Nat))

/-- **A numeral writes one number.** -/
theorem Writes.eq {m n : Number} (hm : t.Writes m) (hn : t.Writes n) : m = n := by
  cases m with
  | int a =>
    cases n with
    | int b => rw [hm.2, hn.2]
    | float y => exact absurd (hm.1.symm.trans hn.1) (by decide)
  | float x =>
    cases n with
    | int b => exact absurd (hn.1.symm.trans hm.1) (by decide)
    | float y =>
      obtain ⟨-, hsign, hunits⟩ := hm
      obtain ⟨-, hsign', hunits'⟩ := hn
      obtain ⟨_, _, _, _⟩ := x
      obtain ⟨_, _, _, _⟩ := y
      cases hsign.trans hsign'.symm
      cases hunits.trans hunits'.symm
      rfl

/-- Zeros around some digits count for the power of ten alone. -/
theorem magnitude_eq {digits : List Char} {y z : Nat} {e : Int}
    (hdigits : t.whole ++ t.places = List.replicate y '0' ++ digits ++ List.replicate z '0')
    (he : t.exponent.getD 0 - t.places.length + z = e) :
    t.magnitude = Nat.ofDigitChars 10 digits 0 * 10 ^ e := by
  have hten : (10 : ℚ) ≠ 0 := by norm_num
  rw [magnitude, hdigits, Nat.ofDigitChars_append, Nat.ofDigitChars_append,
    Nat.ofDigitChars_replicate_zero, Nat.ofDigitChars_replicate_zero, Nat.mul_zero, ← he,
    zpow_add₀ hten, zpow_natCast]
  push_cast
  ring

end Numeral

/-! ## Taking numerals -/

namespace Token

section Reading

variable {whole fraction rest : List Char} (negative : Bool)

/-- A numeral without a point and an exponent. -/
theorem numeral_whole (hwhole : IsWhole whole) (hrest : EndsNumeral rest) :
    numeral negative (whole ++ rest) = .ok (⟨negative, whole, none, none⟩, rest) := by
  have hpoint : '.' ∉ rest.head? := fun h => absurd (hrest _ h).2 (by simp)
  rw [numeral, wholeDigits_of_isWhole hwhole hrest.endsDigits]
  simp only [bind, Except.bind, fractionDigits_eq_none hpoint, exponent_eq_none hrest]
  rfl

/-- A numeral with a point. -/
theorem numeral_point (hwhole : IsWhole whole) (hfraction : IsDigits fraction)
    (hrest : EndsNumeral rest) :
    numeral negative (whole ++ '.' :: (fraction ++ rest)) =
      .ok (⟨negative, whole, some fraction, none⟩, rest) := by
  have hends : EndsDigits ('.' :: (fraction ++ rest)) := by
    rintro _ ⟨⟩
    rfl
  rw [numeral, wholeDigits_of_isWhole hwhole hends]
  simp only [bind, Except.bind, fractionDigits_point hfraction hrest.endsDigits,
    exponent_eq_none hrest]
  rfl

/-- The text of an exponent is read as it is. -/
theorem exponent_signedDecimal (e : Int) (hrest : EndsNumeral rest) :
    exponent ('e' :: ((Binary64.signedDecimal e).toList ++ rest)) = .ok (some e, rest) := by
  have hread : ∀ sign ∈ [[], ['+'], ['-']], _ := fun sign hsign =>
    exponent_letter (e := 'e') (by simp) hsign (isDigits_toDigits e.natAbs) hrest.endsDigits
  rw [Binary64.signedDecimal, String.toList_append, Nat.toString_eq_repr, Nat.toList_repr,
    List.append_assoc]
  rcases lt_or_ge e 0 with hneg | hpos
  · have hvalue : -(e.natAbs : Int) = e := by omega
    rw [if_pos hneg]
    refine (hread ['-'] (by simp)).trans ?_
    rw [if_pos (by decide), Nat.ofDigitChars_ten_toDigits, hvalue]
  · have hvalue : (e.natAbs : Int) = e := by omega
    rw [if_neg (by omega)]
    refine (hread ['+'] (by simp)).trans ?_
    rw [if_neg (by decide), Nat.ofDigitChars_ten_toDigits, hvalue]

/-- A numeral with an exponent, with a point or without. -/
theorem numeral_scientific (hwhole : IsWhole whole) (hfraction : ∀ c ∈ fraction, isDigit c = true)
    (e : Int) (hrest : EndsNumeral rest) :
    numeral negative (whole ++ ((if fraction.isEmpty then [] else '.' :: fraction) ++
        'e' :: ((Binary64.signedDecimal e).toList ++ rest))) =
      .ok (⟨negative, whole, if fraction.isEmpty then none else some fraction, some e⟩, rest) := by
  have hexponent := exponent_signedDecimal e hrest
  have hends : EndsDigits ('e' :: ((Binary64.signedDecimal e).toList ++ rest)) := by
    rintro _ ⟨⟩
    rfl
  rw [numeral]
  cases fraction with
  | nil =>
    have hpoint : fractionDigits ('e' :: ((Binary64.signedDecimal e).toList ++ rest)) =
        .ok (none, 'e' :: ((Binary64.signedDecimal e).toList ++ rest)) :=
      fractionDigits_eq_none (by simp)
    rw [List.isEmpty_nil, if_pos rfl, if_pos rfl, List.nil_append,
      wholeDigits_of_isWhole hwhole hends]
    simp only [bind, Except.bind, hpoint, hexponent]
    rfl
  | cons c tail =>
    have hdigits : IsDigits (c :: tail) := ⟨by simp, hfraction⟩
    have hpoint := fractionDigits_point hdigits hends
    have hends' : ∀ text, EndsDigits ('.' :: text) := by
      rintro text _ ⟨⟩
      rfl
    rw [List.isEmpty_cons, if_neg (by decide), if_neg (by decide), List.cons_append,
      wholeDigits_of_isWhole hwhole (hends' _)]
    simp only [bind, Except.bind, hpoint, hexponent]
    rfl

/-! ## The text of a decimal -/

/-- A text is taken for a numeral that is not whole and writes a magnitude. -/
def TakesDecimal (text : List Char) (q : ℚ) : Prop :=
  ∃ t : Numeral, t.negative = negative ∧ t.isWhole = false ∧ t.magnitude = q ∧
    ∀ rest, EndsNumeral rest → numeral negative (text ++ rest) = .ok (t, rest)

variable {digits : List Char} {e : Int}

/-- Digits on both sides of the point, zeros at the ends aside. -/
theorem takesDecimal_point {y z : Nat} (hwhole : IsWhole whole) (hfraction : IsDigits fraction)
    (hdigits : whole ++ fraction = List.replicate y '0' ++ digits ++ List.replicate z '0')
    (he : z - fraction.length = e) :
    TakesDecimal negative (whole ++ '.' :: fraction) (Nat.ofDigitChars 10 digits 0 * 10 ^ e) := by
  refine ⟨⟨negative, whole, some fraction, none⟩, rfl, rfl, ?_, fun rest hrest => ?_⟩
  · refine Numeral.magnitude_eq hdigits ?_
    simp only [Numeral.places, Option.getD_some, Option.getD_none]
    omega
  · rw [List.append_assoc]
    exact numeral_point negative hwhole hfraction hrest

/-- The first of some digits stand in front of a point, with or without zeros behind them. -/
theorem isWhole_take (hdigits : IsDigits digits) (hhead : digits.head? ≠ some '0') (j z : Nat) :
    IsWhole (digits.take (j + 1) ++ List.replicate z '0') := by
  obtain ⟨d, tail, rfl⟩ := List.exists_cons_of_ne_nil hdigits.1
  refine .inr ⟨⟨by simp, fun c hc => ?_⟩, hhead⟩
  rcases List.mem_append.1 hc with hc | hc
  · exact hdigits.2 c (List.mem_of_mem_take hc)
  · exact isDigit_of_mem_zeros c hc

/-- Digits behind the point, with zeros between. -/
theorem takesDecimal_below_one (hdigits : IsDigits digits) (he : e < 0) :
    TakesDecimal negative ('0' :: '.' :: (List.replicate (-e - 1).toNat '0' ++ digits))
      (Nat.ofDigitChars 10 digits 0 * 10 ^ (e + 1 - digits.length)) := by
  have hzero : IsWhole ['0'] := .inl rfl
  refine takesDecimal_point negative (y := (-e - 1).toNat + 1) (z := 0) hzero
    ⟨by simp [hdigits.1], fun c hc => ?_⟩ ?_ ?_
  · rcases List.mem_append.1 hc with hc | hc
    · exact isDigit_of_mem_zeros c hc
    · exact hdigits.2 c hc
  · simp [List.replicate_succ]
  · rw [List.length_append, List.length_replicate]
    omega

/-- Digits on both sides of the point, or in front of it with a zero behind. -/
theorem takesDecimal_above_one (hdigits : IsDigits digits) (hhead : digits.head? ≠ some '0')
    (he : 0 ≤ e) :
    TakesDecimal negative
      (digits.take (e + 1).toNat ++ List.replicate (e + 1 - digits.length).toNat '0' ++ '.' ::
        (if (digits.drop (e + 1).toNat).isEmpty then ['0'] else digits.drop (e + 1).toNat))
      (Nat.ofDigitChars 10 digits 0 * 10 ^ (e + 1 - digits.length)) := by
  obtain ⟨j, hj⟩ : ∃ j, (e + 1).toNat = j + 1 := ⟨e.toNat, by omega⟩
  have hwhole := isWhole_take hdigits hhead j (e + 1 - digits.length).toNat
  rw [hj]
  rcases Nat.lt_or_ge (j + 1) digits.length with hlong | hshort
  · have hfraction : digits.drop (j + 1) ≠ [] := by
      rw [ne_eq, List.drop_eq_nil_iff]
      omega
    have hzeros : (e + 1 - digits.length).toNat = 0 := by omega
    rw [if_neg (by simpa using hfraction)]
    refine takesDecimal_point negative (y := 0) (z := 0) hwhole ⟨hfraction, fun c hc => ?_⟩ ?_ ?_
    · exact hdigits.2 c (List.mem_of_mem_drop hc)
    · simp [hzeros]
    · rw [List.length_drop]
      omega
  · rw [List.drop_of_length_le hshort, List.isEmpty_nil, if_pos rfl]
    refine takesDecimal_point negative (y := 0) (z := (e + 1 - digits.length).toNat + 1) hwhole
      isDigits_zero ?_ ?_
    · simp [List.take_of_length_le hshort, List.replicate_succ']
    · rw [List.length_singleton]
      omega

/-- One digit in front of the point, and a power of ten. -/
theorem takesDecimal_scientific (hdigits : IsDigits digits) (hhead : digits.head? ≠ some '0')
    (e : Int) :
    TakesDecimal negative
      (digits.take 1 ++ (if (digits.drop 1).isEmpty then [] else '.' :: digits.drop 1) ++
        'e' :: (Binary64.signedDecimal e).toList)
      (Nat.ofDigitChars 10 digits 0 * 10 ^ (e + 1 - digits.length)) := by
  have hwhole := isWhole_take hdigits hhead 0 0
  rw [List.replicate_zero, List.append_nil] at hwhole
  refine ⟨⟨negative, digits.take 1,
    if (digits.drop 1).isEmpty then none else some (digits.drop 1), some e⟩, rfl, ?_, ?_,
    fun rest hrest => ?_⟩
  · simp [Numeral.isWhole]
  · have hplaces : (if (digits.drop 1).isEmpty then none else some (digits.drop 1)).getD [] =
        digits.drop 1 := by
      cases digits.drop 1 <;> rfl
    have hlength := List.length_pos_of_ne_nil hdigits.1
    refine Numeral.magnitude_eq (y := 0) (z := 0) ?_ ?_
    · simp only [Numeral.places, hplaces, List.take_append_drop, List.replicate_zero,
        List.nil_append, List.append_nil]
    · simp only [Numeral.places, hplaces, Option.getD_some, List.length_drop]
      omega
  · rw [List.append_assoc, List.append_assoc, List.cons_append]
    exact numeral_scientific negative hwhole (fun c hc => hdigits.2 c (List.mem_of_mem_drop hc)) e
      hrest

/-- **The text of a decimal** is taken for a numeral that writes it. -/
theorem takesDecimal_layOut (hdigits : IsDigits digits) (hhead : digits.head? ≠ some '0')
    (e : Int) :
    TakesDecimal negative (Binary64.layOut digits e)
      (Nat.ofDigitChars 10 digits 0 * 10 ^ (e + 1 - digits.length)) := by
  rw [Binary64.layOut]
  split
  · split
    · rename_i hneg
      exact takesDecimal_below_one negative hdigits hneg
    · rename_i hpos
      exact takesDecimal_above_one negative hdigits hhead (by omega)
  · exact takesDecimal_scientific negative hdigits hhead e

/-- The text of the magnitude of a positive number. -/
theorem takesDecimal_renderMagnitude {u : Nat} (hu : 0 < u) :
    TakesDecimal negative (Binary64.renderMagnitude u)
      ((Binary64.shortest u).1 * 10 ^ (Binary64.shortest u).2) := by
  have hc := (Binary64.shortest_fst_pos hu).ne'
  rw [Binary64.renderMagnitude]
  generalize Binary64.shortest u = decimal at hc ⊢
  obtain ⟨c, e⟩ := decimal
  obtain ⟨z, hz⟩ := exists_significantDigits c
  have htakes := takesDecimal_layOut negative (isDigits_significantDigits hc)
    (head?_significantDigits hc) (e + Binary64.decimalLength c - 1)
  have hlength : Binary64.decimalLength c = (Binary64.significantDigits c).length + z := by
    rw [Binary64.decimalLength, if_neg hc, hz, List.length_append, List.length_replicate]
  have hvalue : c = 10 ^ z * Nat.ofDigitChars 10 (Binary64.significantDigits c) 0 := by
    rw [← Nat.ofDigitChars_replicate_zero, ← Nat.ofDigitChars_append, ← hz,
      Nat.ofDigitChars_ten_toDigits]
  have hexponent : e + Binary64.decimalLength c - 1 + 1 - (Binary64.significantDigits c).length =
      z + e := by
    omega
  have hten : (10 : ℚ) ≠ 0 := by norm_num
  rw [hexponent, zpow_add₀ hten, zpow_natCast, ← mul_assoc, mul_comm _ (10 ^ z)] at htakes
  have hcast : (c : ℚ) = 10 ^ z * Nat.ofDigitChars 10 (Binary64.significantDigits c) 0 := by
    exact_mod_cast hvalue
  simp only [hcast]
  exact htakes

end Reading

end Token

/-! ## The text of a number -/

namespace Number

/-- The sign in front of a numeral. -/
def sign (negative : Bool) : List Char := if negative then ['-'] else []

/-- The text of a number that is no integer is a numeral that writes it, behind a sign. -/
theorem exists_decimal (x : Binary64) : ∃ (t : Numeral) (text : List Char), t.Writes (.float x) ∧
    x.render.toList = sign t.negative ++ text ∧
      ∀ rest, EndsNumeral rest → numeral t.negative (text ++ rest) = .ok (t, rest) := by
  have htakes : ∃ q, TakesDecimal x.negative
      (if x.units = 0 then ['0', '.', '0'] else Binary64.renderMagnitude x.units) q ∧
        x.units = Binary64.nearestRat (q * (Nat.pow 2 1074 : Nat)) := by
    rcases Nat.eq_zero_or_pos x.units with hzero | hpos
    · rw [if_pos hzero, hzero]
      have hwhole : IsWhole ['0'] := .inl rfl
      refine ⟨Nat.ofDigitChars 10 [] 0 * 10 ^ (-1 : Int),
        takesDecimal_point x.negative (y := 2) (z := 0) hwhole isDigits_zero rfl rfl, ?_⟩
      rw [Nat.ofDigitChars_nil, Nat.cast_zero, zero_mul, zero_mul]
      exact (Binary64.nearest_eq_self (Nat.dvd_zero _)).symm
    · rw [if_neg hpos.ne']
      exact ⟨_, takesDecimal_renderMagnitude x.negative hpos,
        (Binary64.nearestRat_shortest hpos x.fits).symm⟩
  obtain ⟨q, ⟨t, hsign, hwhole, rfl, hnumeral⟩, hunits⟩ := htakes
  refine ⟨t, _, ⟨hwhole, hsign.symm, hunits⟩, ?_, fun rest hrest => hsign ▸ hnumeral rest hrest⟩
  rw [Binary64.render, String.toList_ofList, hsign]
  rfl

/-- **The text of a number is a numeral** that writes it, behind a sign. -/
theorem exists_numeral (n : Number) : ∃ (t : Numeral) (text : List Char), t.Writes n ∧
    n.render.toList = sign t.negative ++ text ∧
      ∀ rest, EndsNumeral rest → numeral t.negative (text ++ rest) = .ok (t, rest) := by
  cases n with
  | float x => exact exists_decimal x
  | int n =>
    cases n with
    | ofNat k =>
      refine ⟨⟨false, Nat.toDigits 10 k, none, none⟩, Nat.toDigits 10 k, ⟨rfl, ?_⟩, ?_,
        fun rest hrest => numeral_whole false (isWhole_toDigits k) hrest⟩
      · rw [Nat.ofDigitChars_ten_toDigits]
        rfl
      · exact Nat.toList_repr
    | negSucc k =>
      refine ⟨⟨true, Nat.toDigits 10 (k + 1), none, none⟩, Nat.toDigits 10 (k + 1), ⟨rfl, ?_⟩, ?_,
        fun rest hrest => numeral_whole true (isWhole_toDigits (k + 1)) hrest⟩
      · rw [Nat.ofDigitChars_ten_toDigits]
        rfl
      · rw [← Nat.toList_repr]
        exact String.toList_append

/-- A minus is no digit. -/
theorem numeral_minus (negative : Bool) (text : List Char) :
    numeral negative ('-' :: text) = .error (lackingDigit ('-' :: text)) :=
  rfl

/-- **The text of a number determines it**, wherever it comes to its end. -/
theorem render_append_inj {m n : Number} {rest rest' : List Char} (hrest : EndsNumeral rest)
    (hrest' : EndsNumeral rest') (h : m.render.toList ++ rest = n.render.toList ++ rest') :
    m = n ∧ rest = rest' := by
  obtain ⟨t, text, hwrites, htext, hnumeral⟩ := exists_numeral m
  obtain ⟨t', text', hwrites', htext', hnumeral'⟩ := exists_numeral n
  have hnumeral := hnumeral rest hrest
  have hnumeral' := hnumeral' rest' hrest'
  rw [htext, htext', List.append_assoc, List.append_assoc, sign, sign] at h
  cases hsign : t.negative <;> cases hsign' : t'.negative <;> rw [hsign, hsign'] at h
  case false.true =>
    rw [if_neg (by decide), if_pos rfl, List.nil_append, List.singleton_append] at h
    rw [h, numeral_minus] at hnumeral
    cases hnumeral
  case true.false =>
    rw [if_pos rfl, if_neg (by decide), List.nil_append, List.singleton_append] at h
    rw [← h, numeral_minus] at hnumeral'
    cases hnumeral'
  all_goals
    rw [hsign] at hnumeral
    rw [hsign', ← List.append_cancel_left h, hnumeral] at hnumeral'
    cases hnumeral'
    exact ⟨hwrites.eq hwrites', rfl⟩

end Number

end AccessPolicy
