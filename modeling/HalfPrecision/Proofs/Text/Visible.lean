import HalfPrecision.Numeral.Integer
import Mathlib

/-!
This file shows that a numeral of visible ASCII characters is read as it is. It also defines the fields of a line, which
are its longest parts without spaces, and shows how visible fields with spaces between them are told apart.
-/

namespace HalfPrecision

/-- There are ten digits. -/
theorem mem_of_isDigit {digit : Char} (known : digit.isDigit) :
    digit ∈ ['0', '1', '2', '3', '4', '5', '6', '7', '8', '9'] := by
  simp only [Char.isDigit, Bool.and_eq_true, decide_eq_true_eq] at known
  have first : 48 ≤ digit.toNat := UInt32.le_iff_toNat_le.mp known.1
  have last : digit.toNat ≤ 57 := UInt32.le_iff_toNat_le.mp known.2
  rw [← Char.ofNat_toNat digit]
  interval_cases digit.toNat <;> decide

namespace Text

/-- Whether a character is a visible one of ASCII. -/
def isVisible (character : Char) : Bool := decide (0x20 < character.toNat) && decide (character.toNat < 0x7f)

/-- Whether a character stands between fields: what may surround a numeral, or a separator of ASCII. -/
def isSpace (character : Char) : Bool :=
  isBlank character || (decide (0x1c ≤ character.toNat) && decide (character.toNat ≤ 0x1f))

/-- The longest parts of a text without spaces, as characters. -/
def visibleParts (characters : List Char) : List (List Char) := (characters.splitOnP isSpace).filter (· ≠ [])

/-- Whether characters make up a field: there are some, and all are visible. -/
def IsField (part : List Char) : Prop := part ≠ [] ∧ part.all isVisible

/-- The longest parts of a text without spaces. -/
def fields (text : String) : List String := (visibleParts text.toList).map String.ofList

section Visible

variable {character : Char} (visible : isVisible character)

include visible

theorem toNat_of_isVisible : 0x20 < character.toNat ∧ character.toNat < 0x7f := by
  simpa [isVisible] using visible

theorem isBlank_of_isVisible : isBlank character = false := by
  obtain ⟨above, below⟩ := toNat_of_isVisible visible
  have space : character ≠ ' ' := by
    rintro rfl
    exact absurd above (by decide)
  have narrow : character.toNat ∉ wideBlanks := by
    simp only [wideBlanks, List.mem_cons, List.not_mem_nil, or_false]
    omega
  simp [isBlank, space, narrow]
  omega

theorem isSpace_of_isVisible : isSpace character = false := by
  obtain ⟨above, -⟩ := toNat_of_isVisible visible
  simp [isSpace, isBlank_of_isVisible visible]
  omega

/-- The only visible digits are those of ASCII, which stand for themselves. -/
theorem digitChar_of_isVisible {digit : Nat} (known : decimalDigit? character = some digit) :
    Nat.digitChar digit = character := by
  obtain ⟨-, below⟩ := toNat_of_isVisible visible
  have later : digitRunStarts.all fun start => decide (0x7f ≤ start) := by decide
  have none : digitRunStarts.find?
      (fun start => decide (start ≤ character.toNat) && decide (character.toNat < start + 10)) = none := by
    rw [List.find?_eq_none]
    intro start inside
    have above := of_decide_eq_true (List.all_eq_true.mp later start inside)
    simp
    omega
  rw [decimalDigit?, none] at known
  split_ifs at known with plain
  · have digits : ['0', '1', '2', '3', '4', '5', '6', '7', '8', '9'].all fun character =>
        Nat.digitChar (character.toNat - '0'.toNat) == character := by decide
    rw [← Option.some.inj known]
    exact eq_of_beq (List.all_eq_true.mp digits character (mem_of_isDigit plain))
  · cases known

end Visible

section Part

variable {part : List Char} (visible : ∀ character ∈ part, isVisible character)

include visible

theorem dropWhile_isBlank_of_isVisible : part.dropWhile isBlank = part := by
  cases part with
  | nil => rfl
  | cons character rest =>
      apply List.dropWhile_cons_of_neg
      simp [isBlank_of_isVisible (visible character List.mem_cons_self)]

theorem trimBlanks_of_isVisible : trimBlanks part = part := by
  have turned : ∀ character ∈ part.reverse, isVisible character := by simpa using visible
  rw [trimBlanks, dropWhile_isBlank_of_isVisible visible, dropWhile_isBlank_of_isVisible turned, List.reverse_reverse]

end Part

/-- Visible numerals are read as they are. -/
theorem plainDigits_of_isVisible {part : List Char}
    (visible : ∀ character ∈ part, isVisible character) : Numeral.plainDigits part = part := by
  rw [Numeral.plainDigits, trimBlanks_of_isVisible visible]
  refine (List.map_congr_left fun character inside => ?_).trans (List.map_id' part)
  cases known : decimalDigit? character with
  | none => rfl
  | some digit => exact digitChar_of_isVisible (visible character inside) known

/-- A space ends a field and belongs to none. -/
theorem visibleParts_append_cons (front rest : List Char) {space : Char} (between : isSpace space) :
    visibleParts (front ++ space :: rest) = visibleParts front ++ visibleParts rest := by
  rw [visibleParts, List.splitOnP_append_cons front rest between, List.filter_append]
  rfl

theorem visibleParts_spaces (count : Nat) (rest : List Char) :
    visibleParts (List.replicate count ' ' ++ rest) = visibleParts rest := by
  induction count with
  | zero => rfl
  | succ count ih =>
      rw [List.replicate_succ, List.cons_append, ← List.nil_append (' ' :: _),
        visibleParts_append_cons _ _ (by decide), ih]
      simp [visibleParts]

section Field

variable {part : List Char} (field : IsField part)

include field

theorem visibleParts_of_isField : visibleParts part = [part] := by
  obtain ⟨nonempty, visible⟩ := field
  rw [List.all_eq_true] at visible
  rw [visibleParts, List.splitOnP_eq_singleton fun character inside => isSpace_of_isVisible (visible character inside)]
  simp [nonempty]

/-- A field with spaces behind it is the first one. -/
theorem visibleParts_cons (count : Nat) (rest : List Char) :
    visibleParts (part ++ (List.replicate (count + 1) ' ' ++ rest)) = part :: visibleParts rest := by
  rw [List.replicate_succ, List.cons_append, visibleParts_append_cons _ _ (by decide), visibleParts_of_isField field,
    visibleParts_spaces, List.singleton_append]

end Field

end Text

end HalfPrecision
