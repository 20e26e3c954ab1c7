import AccessPolicy.Text.CaseTable
import AccessPolicy.Text.Ranges

/-!
# Lower-casing and searching texts

Texts are lower-cased letter by letter, with two exceptions: the capital dotted I becomes two
code points, and a capital sigma becomes the final small sigma where it ends a word.

## Main definitions

* `Text.lower` — the lower-case form of a text.
* `Text.occursIn` — whether a text occurs in another one, character for character.
* `Text.containsFold` — whether it does after both are lower-cased.
* `Text.trim` — a text without white space at its ends.
-/
namespace AccessPolicy.Text

/-! ## Letter case -/

/-- Whether a character has case. -/
def isCased (c : Char) : Bool := inRanges CaseTable.cased c.toNat

/-- Whether a character is passed over in the search for one with case. -/
def isCaseIgnorable (c : Char) : Bool := inRanges CaseTable.ignorable c.toNat

/-- The lower-case form of a single character. -/
def lowerChar (c : Char) : List Char :=
  if c = 'İ' then ['i', Char.ofNat 0x307]
  else
    match CaseTable.lowerRuns.find? (·.holds c.toNat) with
    | some run => [Char.ofNat (c.toNat + run.distance).toNat]
    | none => [c]

/-- Whether the first character that is not passed over has case. -/
def meetsCased (text : List Char) : Bool :=
  ((text.dropWhile isCaseIgnorable).head?).any isCased

/-- The lower-case form of a capital sigma between the characters `before` it, the nearest one
first, and those `after` it. At the end of a word it is the final sigma. -/
def lowerSigma (before after : List Char) : Char :=
  if meetsCased before && !meetsCased after then 'ς' else 'σ'

/-- The lower-case form of characters that follow the characters `before`. -/
def lowerFrom (before : List Char) : List Char → List Char
  | [] => []
  | c :: rest =>
    (if c = 'Σ' then [lowerSigma before rest] else lowerChar c) ++ lowerFrom (c :: before) rest

/-- The lower-case form of a text. -/
def lower (s : String) : String := String.ofList (lowerFrom [] s.toList)

/-! ## Searching -/

/-- Whether `needle` stands somewhere in a list of characters. -/
def occursIn (needle : List Char) : List Char → Bool
  | [] => needle.isEmpty
  | c :: rest => needle.isPrefixOf (c :: rest) || occursIn needle rest

/-- Whether `needle` occurs in `haystack` after both are lower-cased. -/
def containsFold (haystack needle : String) : Bool :=
  occursIn (lower needle).toList (lower haystack).toList

/-! ## Trimming -/

/-- White space: the blank, the control characters that move the position, and the spaces and
separators of other scripts. -/
def isWhiteSpace (c : Char) : Bool :=
  inRanges
    [(9, 13), (0x20, 0x20), (0x85, 0x85), (0xA0, 0xA0), (0x1680, 0x1680), (0x2000, 0x200A),
     (0x2028, 0x2029), (0x202F, 0x202F), (0x205F, 0x205F), (0x3000, 0x3000)] c.toNat

/-- A text without white space at its ends. -/
def trim (s : String) : String :=
  String.ofList ((s.toList.dropWhile isWhiteSpace).reverse.dropWhile isWhiteSpace).reverse

/-! ## Splitting -/

/-- The parts of a list of characters between separators; there is one more of them than there
are separators. -/
def splitChars (separator : Char) : List Char → List (List Char)
  | [] => [[]]
  | c :: rest =>
    match splitChars separator rest with
    | [] => [[c]]
    | part :: parts => if c = separator then [] :: part :: parts else (c :: part) :: parts

/-- The parts of a text between separators. -/
def split (separator : Char) (s : String) : List String :=
  (splitChars separator s.toList).map String.ofList

end AccessPolicy.Text
