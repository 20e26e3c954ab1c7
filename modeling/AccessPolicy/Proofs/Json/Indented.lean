import AccessPolicy.Json.Printer
import AccessPolicy.Proofs.Json.Numeral

/-!
# The indented text of a value determines it

What is printed is a text, and a text says only as much as can be got out of it. The indented text
of a value is that of no other value, so nothing of the value is lost in it.

The first character of a text tells the kind of the value. A word, a number or a string then ends
where a reader of tokens ends it, and the lines between two brackets follow one another: a comma or
the end of a line behind an item tells whether there is another one. The induction over values is
therefore about texts with something behind them, which must not continue a number.

## Main definitions

* `Json.Determines` — the text of a value is that of no other one, wherever it comes to its end.

## Main statements

* `Json.quote_append_inj`, `Json.bracketed_append_inj` — strings, and lines between brackets.
* `Json.determines_indentedAt`, `Json.indented_injective` — all values.
-/
namespace AccessPolicy.Json

open Token

/-! ## Strings -/

/-- Inside a string some characters are read as one, whatever follows them. -/
def StandsFor (written : List Char) (c : Char) : Prop :=
  ∃ p : Piece, (∀ text, pieces (written ++ text) = (p :: (pieces text).1, (pieces text).2)) ∧
    ∀ ps, denote none (p :: ps) = (c :: ·) <$> denote none ps

theorem standsFor_escaped {letter c : Char} (h : escaped? letter = some c) :
    StandsFor ['\\', letter] c :=
  ⟨.char c, pieces_escape h, fun _ => rfl⟩

theorem standsFor_unit {n : Nat} (hn : n < 32) :
    StandsFor ['\\', 'u', '0', '0', hexDigit (n / 16), hexDigit (n % 16)] (Char.ofNat n) := by
  have hunit : ∀ n < 32, unit? '0' '0' (hexDigit (n / 16)) (hexDigit (n % 16)) = some n := by decide
  have hhalf : isLowHalf n = false ∧ isHighHalf n = false := by
    constructor <;> simp [isLowHalf, isHighHalf] <;> omega
  refine ⟨.unit n, pieces_unit (hunit n hn), fun ps => ?_⟩
  rw [denote.eq_def]
  simp only [hhalf.1, hhalf.2]
  rfl

/-- A character is read as it is written. -/
theorem standsFor_escape (c : Char) : StandsFor (escape c) c := by
  have hcode : ∀ {n : Nat}, c.toNat = n → Char.ofNat n = c := by
    rintro n rfl
    exact Char.ofNat_toNat c
  rw [escape]
  split_ifs with hquote hbackslash h8 h9 h10 h12 h13 hcontrol
  · exact standsFor_escaped (by simp [escaped?, hquote])
  · exact standsFor_escaped (by simp [escaped?, hbackslash])
  · exact standsFor_escaped (by rw [← hcode h8]; rfl)
  · exact standsFor_escaped (by rw [← hcode h9]; rfl)
  · exact standsFor_escaped (by rw [← hcode h10]; rfl)
  · exact standsFor_escaped (by rw [← hcode h12]; rfl)
  · exact standsFor_escaped (by rw [← hcode h13]; rfl)
  · have hunit := standsFor_unit hcontrol
    rwa [Char.ofNat_toNat] at hunit
  · refine ⟨.char c, pieces_char ⟨by simp [hquote, hbackslash], ?_⟩, fun _ => rfl⟩
    rw [Char.lt_def, UInt32.lt_iff_toNat_lt]
    exact hcontrol

/-- **A quoted text is read back**, whatever follows the closing quote. -/
theorem exists_pieces (text : List Char) : ∃ ps,
    (∀ rest, pieces (text.flatMap escape ++ '"' :: rest) = (ps, .ok rest)) ∧
      denote none ps = .ok text := by
  induction text with
  | nil => exact ⟨[], fun rest => by rw [List.flatMap_nil, List.nil_append, pieces], rfl⟩
  | cons c text ih =>
    obtain ⟨ps, hps, htext⟩ := ih
    obtain ⟨p, hp, hc⟩ := standsFor_escape c
    refine ⟨p :: ps, fun rest => ?_, ?_⟩
    · rw [List.flatMap_cons, List.append_assoc, hp, hps]
    · rw [hc, htext]
      rfl

theorem toList_quote (s : String) :
    (quote s).toList = '"' :: (s.toList.flatMap escape ++ ['"']) := by
  simp [quote]

/-- The text of a string determines it. -/
theorem quote_append_inj {s s' : String} {rest rest' : List Char}
    (h : (quote s).toList ++ rest = (quote s').toList ++ rest') : s = s' ∧ rest = rest' := by
  obtain ⟨ps, hps, hs⟩ := exists_pieces s.toList
  obtain ⟨ps', hps', hs'⟩ := exists_pieces s'.toList
  simp only [toList_quote, List.cons_append, List.append_assoc, List.nil_append,
    List.cons.injEq, true_and] at h
  have hpieces := hps rest
  rw [h, hps'] at hpieces
  cases hpieces
  rw [hs] at hs'
  exact ⟨String.toList_inj.1 (Except.ok.inj hs'), rfl⟩

/-! ## Texts that determine what they are written for -/

/-- The text written for `a` is that of nothing else, wherever it comes to its end. -/
def Determines {α : Type} (write : α → String) (a : α) : Prop :=
  ∀ (b : α) (rest rest' : List Char), EndsNumeral rest → EndsNumeral rest' →
    (write a).toList ++ rest = (write b).toList ++ rest' → a = b ∧ rest = rest'

section Lines

variable {α : Type} {write : α → String}

/-- The lines of some items behind another one: each stands behind a comma and some blanks. -/
def linesBehind (write : α → String) (gap : List Char) (items : List α) : List Char :=
  items.flatMap fun a => ',' :: (gap ++ (write a).toList)

theorem endsNumeral_linesBehind (gap : List Char) (items : List α) (rest : List Char) :
    EndsNumeral (linesBehind write gap items ++ '\n' :: rest) := by
  cases items <;> rintro _ ⟨⟩ <;> exact ⟨rfl, by decide⟩

/-- Lines determine the items if each line does its own. -/
theorem linesBehind_append_inj {gap : List Char} {items items' : List α} {rest rest' : List Char}
    (hitems : ∀ a ∈ items, Determines write a)
    (h : linesBehind write gap items ++ '\n' :: rest =
      linesBehind write gap items' ++ '\n' :: rest') : items = items' ∧ rest = rest' := by
  induction items generalizing items' with
  | nil =>
    cases items' with
    | nil => exact ⟨rfl, (List.cons.inj h).2⟩
    | cons b items' => cases (List.cons.inj h).1
  | cons a items ih =>
    cases items' with
    | nil => cases (List.cons.inj h).1
    | cons b items' =>
      obtain ⟨ha, hitems⟩ := List.forall_mem_cons.1 hitems
      simp only [linesBehind, List.flatMap_cons, List.cons_append, List.append_assoc,
        List.cons.injEq, true_and, List.append_cancel_left_eq] at h
      obtain ⟨rfl, hrest⟩ := ha b _ _ (endsNumeral_linesBehind gap items rest)
        (endsNumeral_linesBehind gap items' rest') h
      obtain ⟨rfl, rfl⟩ := ih hitems hrest
      exact ⟨rfl, rfl⟩

theorem toList_intercalate_cons (separator line : String) (lines : List String) :
    (separator.intercalate (line :: lines)).toList =
      line.toList ++ lines.flatMap fun l => separator.toList ++ l.toList := by
  rw [String.toList_intercalate]
  induction lines generalizing line with
  | nil => simp
  | cons next lines ih =>
    rw [List.map_cons, List.map_cons, List.intercalate_cons_cons, ← List.map_cons, ih]
    simp

/-- Lines between brackets: the first one, those behind it and the closing bracket. -/
theorem toList_bracketed_cons (opening closing : String) (level : Nat) (a : α) (items : List α) :
    (bracketed opening closing level ((a :: items).map write)).toList =
      opening.toList ++ ((lineStart (level + 1)).toList ++ ((write a).toList ++
        (linesBehind write (lineStart (level + 1)).toList items ++
          ((lineStart level).toList ++ closing.toList)))) := by
  rw [bracketed, List.map_cons, List.isEmpty_cons, if_neg (by decide)]
  simp only [String.toList_append, toList_intercalate_cons, List.flatMap_map, linesBehind]
  simp

theorem toList_lineStart (level : Nat) :
    (lineStart level).toList = '\n' :: List.replicate (2 * level) ' ' := by
  simp [lineStart]

/-- **Lines between brackets** determine the items if each line does its own. -/
theorem bracketed_append_inj {opening closing : String} {bracket : Char}
    (hclosing : closing.toList = [bracket]) (hbracket : bracket ≠ '\n') {level : Nat}
    {items items' : List α} {rest rest' : List Char} (hitems : ∀ a ∈ items, Determines write a)
    (h : (bracketed opening closing level (items.map write)).toList ++ rest =
      (bracketed opening closing level (items'.map write)).toList ++ rest') :
    items = items' ∧ rest = rest' := by
  have hnil : (bracketed opening closing level []).toList = opening.toList ++ [bracket] := by
    rw [bracketed, List.isEmpty_nil, if_pos rfl, String.toList_append, hclosing]
  cases items <;> cases items' <;>
    simp only [List.map_nil, hnil, toList_bracketed_cons, toList_lineStart, List.append_assoc,
      List.append_cancel_left_eq, List.cons_append, List.nil_append, List.cons.injEq, true_and] at h
  case nil.nil => exact ⟨rfl, h⟩
  case nil.cons => exact absurd h.1 hbracket
  case cons.nil => exact absurd h.1.symm hbracket
  case cons.cons a items b items' =>
    have hlines : linesBehind write (lineStart (level + 1)).toList (a :: items) ++
          '\n' :: (List.replicate (2 * level) ' ' ++ (closing.toList ++ rest)) =
        linesBehind write (lineStart (level + 1)).toList (b :: items') ++
          '\n' :: (List.replicate (2 * level) ' ' ++ (closing.toList ++ rest')) := by
      simpa [linesBehind, toList_lineStart] using h
    obtain ⟨hitems, hrest⟩ := linesBehind_append_inj hitems hlines
    exact ⟨hitems, List.append_cancel_left (List.append_cancel_left hrest)⟩

end Lines

/-! ## Values -/

theorem indentedItems_eq_map (level : Nat) (items : List Json) :
    indentedItems level items = items.map (indentedAt level) := by
  induction items with
  | nil => rfl
  | cons v rest ih => rw [indentedItems, ih, List.map_cons]

/-- The line of a field. -/
def fieldLine (level : Nat) (field : String × Json) : String :=
  quote field.1 ++ ": " ++ indentedAt level field.2

theorem indentedFields_eq_map (level : Nat) (fields : List (String × Json)) :
    indentedFields level fields = fields.map (fieldLine level) := by
  induction fields with
  | nil => rfl
  | cons field rest ih => rw [indentedFields, ih, List.map_cons, fieldLine]

/-- The kind of the value whose text begins with a character. -/
def kindOf (c : Char) : String :=
  match c with
  | 'n' => "null"
  | 't' => "bool"
  | 'f' => "bool"
  | '"' => "string"
  | '[' => "array"
  | '\x7b' => "object"
  | _ => "number"

theorem kindOf_of_isDigit {c : Char} (hc : isDigit c = true) : kindOf c = "number" := by
  rw [kindOf.eq_def]
  split
  case h_7 => rfl
  all_goals cases hc

/-- The text of a number begins with a minus or a digit. -/
theorem exists_cons_render (n : Number) :
    ∃ c text, n.render.toList = c :: text ∧ kindOf c = "number" := by
  obtain ⟨t, text, -, htext, hnumeral⟩ := n.exists_numeral
  obtain ⟨unsigned, hunsigned, hdigits⟩ := exists_isUnsigned (hnumeral [] nofun)
  obtain ⟨c, tail, hcons, hc⟩ := exists_cons_of_isUnsigned hdigits
  rw [List.append_nil, List.append_nil, hcons] at hunsigned
  rw [htext, hunsigned, Number.sign]
  split
  · exact ⟨'-', _, rfl, rfl⟩
  · exact ⟨c, tail, rfl, kindOf_of_isDigit hc⟩

theorem exists_cons_bracketed {opening : String} {bracket : Char}
    (hopening : opening.toList = [bracket]) (closing : String) (level : Nat) (lines : List String) :
    ∃ text, (bracketed opening closing level lines).toList = bracket :: text := by
  rw [bracketed]
  split <;> simp only [String.toList_append, hopening, List.append_assoc, List.singleton_append] <;>
    exact ⟨_, rfl⟩

/-- The first character of the text of a value tells its kind. -/
theorem exists_cons_indentedAt (level : Nat) (v : Json) :
    ∃ c text, (indentedAt level v).toList = c :: text ∧ kindOf c = v.kindName := by
  cases v with
  | null => exact ⟨'n', ['u', 'l', 'l'], by simp [indentedAt, compact], rfl⟩
  | bool b =>
    cases b with
    | false => exact ⟨'f', ['a', 'l', 's', 'e'], by simp [indentedAt, compact], rfl⟩
    | true => exact ⟨'t', ['r', 'u', 'e'], by simp [indentedAt, compact], rfl⟩
  | number n => exact exists_cons_render n
  | string s => exact ⟨'"', _, toList_quote s, rfl⟩
  | array items =>
    have hopening : "[".toList = ['['] := by decide
    obtain ⟨text, htext⟩ := exists_cons_bracketed hopening "]" level
      (indentedItems (level + 1) items)
    exact ⟨'[', text, htext, rfl⟩
  | object fields =>
    have hopening : "\x7b".toList = ['\x7b'] := by decide
    obtain ⟨text, htext⟩ := exists_cons_bracketed hopening "\x7d" level
      (indentedFields (level + 1) fields)
    exact ⟨'\x7b', text, htext, rfl⟩

theorem kindName_eq_of_append {level level' : Nat} {v w : Json} {rest rest' : List Char}
    (h : (indentedAt level v).toList ++ rest = (indentedAt level' w).toList ++ rest') :
    v.kindName = w.kindName := by
  obtain ⟨c, text, hv, hkind⟩ := exists_cons_indentedAt level v
  obtain ⟨c', text', hw, hkind'⟩ := exists_cons_indentedAt level' w
  rw [hv, hw] at h
  rw [← hkind, ← hkind', (List.cons.inj h).1]

/-- A line determines a field if the text of its value does so. -/
theorem determines_fieldLine {level : Nat} {field : String × Json}
    (h : Determines (indentedAt level) field.2) : Determines (fieldLine level) field := by
  intro field' rest rest' hrest hrest' htext
  simp only [fieldLine, String.toList_append, List.append_assoc] at htext
  obtain ⟨hkey, htext⟩ := quote_append_inj htext
  obtain ⟨hvalue, hrests⟩ := h field'.2 rest rest' hrest hrest' (List.append_cancel_left htext)
  exact ⟨Prod.ext hkey hvalue, hrests⟩

mutual

/-- **The text of a value determines it**, wherever it comes to its end. -/
theorem determines_indentedAt : ∀ (v : Json) (level : Nat), Determines (indentedAt level) v
  | null, level => by
    intro w rest rest' hrest hrest' h
    cases w with
    | null => exact ⟨rfl, List.append_cancel_left h⟩
    | _ => exact absurd (kindName_eq_of_append h) (by simp [kindName])
  | bool b, level => by
    intro w rest rest' hrest hrest' h
    cases w with
    | bool b' => cases b <;> cases b' <;> simp_all [indentedAt, compact]
    | _ => exact absurd (kindName_eq_of_append h) (by simp [kindName])
  | number n, level => by
    intro w rest rest' hrest hrest' h
    cases w with
    | number n' =>
      obtain ⟨rfl, hrests⟩ := Number.render_append_inj hrest hrest' h
      exact ⟨rfl, hrests⟩
    | _ => exact absurd (kindName_eq_of_append h) (by simp [kindName])
  | string s, level => by
    intro w rest rest' hrest hrest' h
    cases w with
    | string s' =>
      obtain ⟨rfl, hrests⟩ := quote_append_inj h
      exact ⟨rfl, hrests⟩
    | _ => exact absurd (kindName_eq_of_append h) (by simp [kindName])
  | array items, level => by
    intro w rest rest' hrest hrest' h
    cases w with
    | array items' =>
      rw [indentedAt, indentedAt, indentedItems_eq_map, indentedItems_eq_map] at h
      have hclosing : "]".toList = [']'] := by decide
      obtain ⟨rfl, hrests⟩ := bracketed_append_inj hclosing (by decide)
        (determines_items items (level + 1)) h
      exact ⟨rfl, hrests⟩
    | _ => exact absurd (kindName_eq_of_append h) (by simp [kindName])
  | object fields, level => by
    intro w rest rest' hrest hrest' h
    cases w with
    | object fields' =>
      rw [indentedAt, indentedAt, indentedFields_eq_map, indentedFields_eq_map] at h
      have hclosing : "\x7d".toList = ['\x7d'] := by decide
      obtain ⟨rfl, hrests⟩ := bracketed_append_inj hclosing (by decide)
        (determines_fields fields (level + 1)) h
      exact ⟨rfl, hrests⟩
    | _ => exact absurd (kindName_eq_of_append h) (by simp [kindName])

theorem determines_items : ∀ (items : List Json) (level : Nat),
    ∀ v ∈ items, Determines (indentedAt level) v
  | [], _ => List.forall_mem_nil _
  | v :: rest, level =>
    List.forall_mem_cons.2 ⟨determines_indentedAt v level, determines_items rest level⟩

theorem determines_fields : ∀ (fields : List (String × Json)) (level : Nat),
    ∀ field ∈ fields, Determines (fieldLine level) field
  | [], _ => List.forall_mem_nil _
  | (_, v) :: rest, level =>
    List.forall_mem_cons.2
      ⟨determines_fieldLine (determines_indentedAt v level), determines_fields rest level⟩

end

/-- **The indented text of a value** is that of no other value. -/
theorem indented_injective : Function.Injective indented := by
  intro v w h
  exact (determines_indentedAt v 0 w [] [] nofun nofun
    (congrArg (fun s : String => s.toList ++ []) h)).1

end AccessPolicy.Json
