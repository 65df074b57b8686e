import HalfPrecision.Proofs.Except
import HalfPrecision.Proofs.Text.Digits
import HalfPrecision.Value.Text
import HalfPrecision.Word
import Mathlib.Data.List.Basic
import Mathlib.Tactic.SplitIfs

/-!
This file shows that the text of a value is one line. Quoted texts escape their line ends, and all other texts are made
of digits, names and signs.
-/

namespace HalfPrecision

theorem digitChar_ne_lineEnd (digit : Nat) : Nat.digitChar digit ≠ '\n' := by
  rcases Nat.lt_or_ge digit 16 with small | large
  · have each : ∀ digit < 16, Nat.digitChar digit ≠ '\n' := by decide
    exact each digit small
  · have other : Nat.digitChar digit = '*' := by
      unfold Nat.digitChar
      repeat rw [if_neg (by omega)]
    rw [other]
    decide

/-- Digits hold no line end in any base. -/
@[simp]
theorem lineEnd_notMem_toDigits {base : Nat} (several : 1 < base) (number : Nat) : '\n' ∉ Nat.toDigits base number := by
  induction number using Nat.strongRecOn with
  | _ number ih =>
      rw [Nat.toDigits_eq_if several]
      split_ifs with single
      · rw [List.mem_singleton]
        exact (digitChar_ne_lineEnd number).symm
      · have smaller : number / base < number := Nat.div_lt_self (by omega) several
        rw [List.mem_append, List.mem_singleton, not_or]
        exact ⟨ih _ smaller, (digitChar_ne_lineEnd _).symm⟩

@[simp]
theorem lineEnd_notMem_repr (number : Int) : '\n' ∉ number.repr.toList := notMem_repr rfl (by decide) number

theorem lineEnd_notMem_intercalate {separator : List Char} (known : '\n' ∉ separator) {parts : List (List Char)}
    (all : ∀ part ∈ parts, '\n' ∉ part) : '\n' ∉ separator.intercalate parts := by
  induction parts with
  | nil => simp
  | cons part rest ih =>
      obtain ⟨first, others⟩ := List.forall_mem_cons.mp all
      cases rest with
      | nil => simpa using first
      | cons next rest =>
          rw [List.intercalate_cons_cons, List.mem_append, List.mem_append, not_or, not_or]
          exact ⟨⟨first, known⟩, ih others⟩

namespace Text

@[simp]
theorem lineEnd_notMem_hexDigitsOf (count number : Nat) : '\n' ∉ hexDigitsOf count number := by
  intro lineEnd
  obtain ⟨place, -, same⟩ := List.mem_map.mp lineEnd
  exact digitChar_ne_lineEnd _ same

theorem quoteFor_ne_lineEnd (characters : List Char) : quoteFor characters ≠ '\n' := by
  unfold quoteFor
  split <;> decide

section Escape

variable {quote : Char} (other : quote ≠ '\n')

include other

/-- The form of a character between quotes is one line. -/
theorem lineEnd_notMem_escapeChar (character : Char) : '\n' ∉ escapeChar quote character := by
  -- Of all characters that are not printed as they are, only the line end could stand for itself.
  by_cases lineEnd : character = '\n'
  · have spelled : escapeChar quote character = ['\\', 'n'] := by
      unfold escapeChar
      rw [lineEnd, if_neg (by decide), if_neg other.symm, if_pos rfl]
    rw [spelled]
    decide
  · unfold escapeChar
    split_ifs <;> simp [other.symm, Ne.symm lineEnd]

theorem lineEnd_notMem_escapeCode (code : Nat) : '\n' ∉ escapeCode quote code := by
  unfold escapeCode
  split_ifs
  · simp
  · exact lineEnd_notMem_escapeChar other _

theorem lineEnd_notMem_escapeByte (byte : UInt8) : '\n' ∉ escapeByte quote byte := by
  unfold escapeByte
  split_ifs
  · exact lineEnd_notMem_escapeChar other _
  · simp

end Escape

/-- A quoted text is one line, whatever is quoted. -/
theorem lineEnd_notMem_quoted (characters : List Char) : '\n' ∉ quoted characters := by
  have quote := quoteFor_ne_lineEnd characters
  simp [quoted, quote.symm, lineEnd_notMem_escapeChar quote]

theorem lineEnd_notMem_quotedCodes (codes : List Nat) : '\n' ∉ quotedCodes codes := by
  have quote := quoteFor_ne_lineEnd (codes.map Char.ofNat)
  simp [quotedCodes, quote.symm, lineEnd_notMem_escapeCode quote]

theorem lineEnd_notMem_quotedBytes (bytes : List UInt8) : '\n' ∉ quotedBytes bytes := by
  have quote := quoteFor_ne_lineEnd (bytes.map fun byte => Char.ofNat byte.toNat)
  simp [quotedBytes, quote.symm, lineEnd_notMem_escapeByte quote]

end Text

section Laid

variable {digits : List Char} (known : '\n' ∉ digits)

include known

theorem lineEnd_notMem_take (count : Nat) : '\n' ∉ digits.take count :=
  fun lineEnd => known (List.mem_of_mem_take lineEnd)

theorem lineEnd_notMem_drop (count : Nat) : '\n' ∉ digits.drop count :=
  fun lineEnd => known (List.mem_of_mem_drop lineEnd)

theorem Binary64.lineEnd_notMem_layOut (pointed : Bool) (point : Int) : '\n' ∉ layOut pointed digits point := by
  have taken := lineEnd_notMem_take known
  have dropped := lineEnd_notMem_drop known
  unfold layOut exponentText padZeros
  split_ifs <;> simp [known, taken, dropped, -List.drop_one]

theorem Decimal.lineEnd_notMem_pointAt (place : Int) : '\n' ∉ pointAt digits place := by
  have taken := lineEnd_notMem_take known
  have dropped := lineEnd_notMem_drop known
  unfold pointAt
  split_ifs <;> simp [known, taken, dropped]

end Laid

namespace Binary64

theorem lineEnd_notMem_significantDigits (mantissa : Nat) (exponent : Int) :
    '\n' ∉ (significantDigits mantissa exponent).1 := by
  intro lineEnd
  have inside := (List.dropWhile_sublist _).mem (List.mem_reverse.mp lineEnd)
  exact lineEnd_notMem_toDigits (by decide) mantissa (List.mem_reverse.mp inside)

theorem lineEnd_notMem_magnitudeText (pointed : Bool) (number : Binary64) : '\n' ∉ number.magnitudeText pointed := by
  have written (mantissa : Nat) (exponent : Int) :
      '\n' ∉ layOut pointed (significantDigits mantissa exponent).1 (significantDigits mantissa exponent).2 :=
    lineEnd_notMem_layOut (lineEnd_notMem_significantDigits mantissa exponent) pointed _
  unfold magnitudeText
  split
  · decide
  · decide
  · split_ifs <;> decide
  · exact written _ _
  · exact written _ _

@[simp]
theorem lineEnd_notMem_characters (pointed : Bool) (number : Binary64) : '\n' ∉ number.characters pointed := by
  have magnitude := lineEnd_notMem_magnitudeText pointed number
  unfold characters
  split_ifs <;> simp [magnitude]

end Binary64

namespace Decimal

theorem lineEnd_notMem_magnitudeText (number : Decimal) : '\n' ∉ number.magnitudeText := by
  cases number with
  | finite negative coefficient exponent =>
      have digits : '\n' ∉ Nat.toDigits 10 coefficient := lineEnd_notMem_toDigits (by decide) coefficient
      unfold magnitudeText exponentText
      dsimp only
      rw [List.mem_append, not_or]
      refine ⟨lineEnd_notMem_pointAt digits _, ?_⟩
      split_ifs <;> simp
  | infinite negative =>
      unfold magnitudeText
      dsimp only
      decide
  | nan negative signaling payload =>
      unfold magnitudeText
      dsimp only
      split_ifs <;> simp

theorem lineEnd_notMem_text (number : Decimal) : '\n' ∉ number.text.toList := by
  have magnitude := lineEnd_notMem_magnitudeText number
  rw [text, String.toList_ofList]
  split_ifs <;> simp [magnitude]

end Decimal

@[simp]
theorem lineEnd_notMem_parts (parts : List Nat) :
    '\n' ∉ [',', ' '].intercalate (parts.map (String.toList ∘ toString)) := by
  refine lineEnd_notMem_intercalate (by decide) ?_
  simp

theorem Date.lineEnd_notMem_text (day : Date) : '\n' ∉ day.text.toList := by
  simp [text]

theorem lineEnd_notMem_spanText (seconds : Int) : '\n' ∉ (spanText seconds).toList := by
  unfold spanText
  dsimp only
  split_ifs <;> simp

theorem DateTime.lineEnd_notMem_text (time : DateTime) : '\n' ∉ time.text.toList := by
  unfold text offsetText
  cases time.offset with
  | none => simp
  | some minutes =>
      dsimp only
      split_ifs <;> simp [lineEnd_notMem_spanText]

namespace Value

theorem lineEnd_notMem_integerText {number : Int} {text : List Char} (written : integerText number = .ok text) :
    '\n' ∉ text := by
  unfold integerText at written
  split_ifs at written
  obtain rfl := Except.ok.inj written
  simp

theorem lineEnd_notMem_complexText (real imaginary : Binary64) : '\n' ∉ complexText real imaginary := by
  unfold complexText
  dsimp only
  split_ifs <;> simp

/-- A collection is one line if its items are. -/
theorem lineEnd_notMem_enclosed {opening closing : List Char} {items : List (List Char)} (first : '\n' ∉ opening)
    (last : '\n' ∉ closing) (all : ∀ item ∈ items, '\n' ∉ item) : '\n' ∉ enclosed opening closing items := by
  have separator : '\n' ∉ [',', ' '] := by decide
  have inner := lineEnd_notMem_intercalate separator all
  simp [enclosed, first, last, inner]

mutual

theorem lineEnd_notMem_characters (value : Value) {text : List Char} (written : characters value = .ok text) :
    '\n' ∉ text := by
  cases value with
  | null =>
      obtain rfl := Except.ok.inj written
      decide
  | bool truth =>
      obtain rfl := Except.ok.inj written
      cases truth <;> decide
  | int number => exact lineEnd_notMem_integerText written
  | float number =>
      obtain rfl := Except.ok.inj written
      exact Binary64.lineEnd_notMem_characters true number
  | text content =>
      obtain rfl := Except.ok.inj written
      exact Text.lineEnd_notMem_quoted content.toList
  | brokenText codes =>
      obtain rfl := Except.ok.inj written
      exact Text.lineEnd_notMem_quotedCodes codes
  | bytes content =>
      obtain rfl := Except.ok.inj written
      exact Text.lineEnd_notMem_quotedBytes content
  | complex real imaginary =>
      obtain rfl := Except.ok.inj written
      exact lineEnd_notMem_complexText real imaginary
  | fraction value =>
      unfold characters at written
      obtain ⟨numerator, first, written⟩ := bind_eq_ok_iff.mp written
      obtain ⟨denominator, second, written⟩ := bind_eq_ok_iff.mp written
      obtain rfl := Except.ok.inj written
      refine lineEnd_notMem_enclosed (by decide) (by decide) ?_
      simpa using ⟨lineEnd_notMem_integerText first, lineEnd_notMem_integerText second⟩
  | decimal number =>
      obtain rfl := Except.ok.inj written
      simp [Decimal.lineEnd_notMem_text]
  | date day =>
      obtain rfl := Except.ok.inj written
      exact day.lineEnd_notMem_text
  | dateTime time =>
      obtain rfl := Except.ok.inj written
      exact time.lineEnd_notMem_text
  | list items =>
      unfold characters at written
      obtain ⟨texts, each, written⟩ := bind_eq_ok_iff.mp written
      obtain rfl := Except.ok.inj written
      exact lineEnd_notMem_enclosed (by decide) (by decide) (lineEnd_notMem_itemTexts items each)
  | pair left right =>
      unfold characters at written
      obtain ⟨leftText, first, written⟩ := bind_eq_ok_iff.mp written
      obtain ⟨rightText, second, written⟩ := bind_eq_ok_iff.mp written
      obtain rfl := Except.ok.inj written
      refine lineEnd_notMem_enclosed (by decide) (by decide) ?_
      simpa using ⟨lineEnd_notMem_characters left first, lineEnd_notMem_characters right second⟩
  | set items =>
      by_cases empty : items = []
      · subst empty
        obtain rfl := Except.ok.inj written
        decide
      · rw [characters] at written
        · obtain ⟨texts, each, written⟩ := bind_eq_ok_iff.mp written
          obtain rfl := Except.ok.inj written
          exact lineEnd_notMem_enclosed (by decide) (by decide) (lineEnd_notMem_itemTexts items each)
        · exact empty
  | map entries =>
      unfold characters at written
      obtain ⟨texts, each, written⟩ := bind_eq_ok_iff.mp written
      obtain rfl := Except.ok.inj written
      exact lineEnd_notMem_enclosed (by decide) (by decide) (lineEnd_notMem_entryTexts entries each)
  | enclosing kind =>
      obtain rfl := Except.ok.inj written
      split <;> decide

theorem lineEnd_notMem_itemTexts (items : List Value) {texts : List (List Char)}
    (written : itemTexts items = .ok texts) :
    ∀ text ∈ texts, '\n' ∉ text := by
  match items with
  | [] =>
      obtain rfl := Except.ok.inj written
      simp
  | item :: rest =>
      unfold itemTexts at written
      obtain ⟨text, first, written⟩ := bind_eq_ok_iff.mp written
      obtain ⟨others, later, written⟩ := bind_eq_ok_iff.mp written
      obtain rfl := Except.ok.inj written
      exact List.forall_mem_cons.mpr ⟨lineEnd_notMem_characters item first, lineEnd_notMem_itemTexts rest later⟩

theorem lineEnd_notMem_entryTexts (entries : List (Value × Value)) {texts : List (List Char)}
    (written : entryTexts entries = .ok texts) : ∀ text ∈ texts, '\n' ∉ text := by
  match entries with
  | [] =>
      obtain rfl := Except.ok.inj written
      simp
  | (key, value) :: rest =>
      unfold entryTexts at written
      obtain ⟨keyText, first, written⟩ := bind_eq_ok_iff.mp written
      obtain ⟨valueText, second, written⟩ := bind_eq_ok_iff.mp written
      obtain ⟨others, later, written⟩ := bind_eq_ok_iff.mp written
      obtain rfl := Except.ok.inj written
      refine List.forall_mem_cons.mpr ⟨?_, lineEnd_notMem_entryTexts rest later⟩
      simp [lineEnd_notMem_characters key first, lineEnd_notMem_characters value second]

end

end Value

end HalfPrecision
