import HalfPrecision.Numeral.Real
import HalfPrecision.Proofs.Text.Visible

/-!
This file shows how the numerals of real numbers are read that are made of plain digits: their digits spell the
mantissa, wherever the point stands, and the exponent counts the places behind the point.
-/

namespace HalfPrecision.Numeral

/-- The characters that stand in the text of a real number. -/
def realAlphabet : List Char :=
  ['0', '1', '2', '3', '4', '5', '6', '7', '8', '9', '.', '+', '-', 'e', 'i', 'n', 'f', 'a']

section Character

variable {character : Char} (known : character ∈ realAlphabet)

include known

theorem isVisible_of_mem_realAlphabet : Text.isVisible character := by
  have each : realAlphabet.all Text.isVisible := by decide
  exact List.all_eq_true.mp each character known

/-- Neither underscores nor the marks of hexadecimal bits stand in the text of a real number. -/
theorem ne_of_mem_realAlphabet : character ≠ '_' ∧ character ≠ 'x' ∧ character ≠ 'X' := by
  have each : realAlphabet.all fun character => character != '_' && (character != 'x' && character != 'X') := by decide
  simpa using List.all_eq_true.mp each character known

end Character

section Digit

variable {digit : Char} (known : digit.isDigit)

include known

theorem mem_realAlphabet_of_isDigit : digit ∈ realAlphabet :=
  List.mem_append_left ['.', '+', '-', 'e', 'i', 'n', 'f', 'a'] (mem_of_isDigit known)

theorem toLower_of_isDigit : digit.toLower = digit := by
  have each : ['0', '1', '2', '3', '4', '5', '6', '7', '8', '9'].all fun digit => digit.toLower == digit := by decide
  exact eq_of_beq (List.all_eq_true.mp each digit (mem_of_isDigit known))

end Digit

theorem forall_mem_realAlphabet_of_isDigit {digits : List Char} (known : ∀ digit ∈ digits, digit.isDigit) :
    ∀ digit ∈ digits, digit ∈ realAlphabet :=
  fun digit inside => mem_realAlphabet_of_isDigit (known digit inside)

section Value

theorem digitsValue_eq (digits : List Char) : digitsValue digits = Nat.ofDigitChars 10 digits 0 := by
  simp [digitsValue, Nat.ofDigitChars, Nat.mul_comm]

@[simp]
theorem digitsValue_toDigits (number : Nat) : digitsValue (Nat.toDigits 10 number) = number := by
  rw [digitsValue_eq, Nat.ofDigitChars_toDigits (by decide) (by decide)]

@[simp]
theorem digitsValue_append_zeros (digits : List Char) (count : Nat) :
    digitsValue (digits ++ List.replicate count '0') = digitsValue digits * 10 ^ count := by
  rw [digitsValue_eq, digitsValue_eq, Nat.ofDigitChars_append, Nat.ofDigitChars_replicate_zero, Nat.mul_comm]

@[simp]
theorem digitsValue_zeros_append (digits : List Char) (count : Nat) :
    digitsValue (List.replicate count '0' ++ digits) = digitsValue digits := by
  rw [digitsValue_eq, digitsValue_eq, Nat.ofDigitChars_append, Nat.ofDigitChars_replicate_zero, Nat.mul_zero]

end Value

theorem dropUnderscores?_of_notMem {characters : List Char} (none : '_' ∉ characters) (afterDigit : Bool) :
    dropUnderscores? afterDigit characters = some characters := by
  fun_induction dropUnderscores? afterDigit characters with
  | case1 => rfl
  | case2 => simp at none
  | case3 => simp at none
  | case4 => simp at none
  | case5 afterDigit character rest _ _ ih =>
      rw [ih fun inside => none (List.mem_cons_of_mem _ inside), Option.map_some]

/-- A numeral without blanks, underscores and foreign digits is read behind its sign. -/
theorem readReal?_of_mem_realAlphabet {characters : List Char}
    (known : ∀ character ∈ characters, character ∈ realAlphabet) :
    readReal? characters = readUnsigned? (splitSign characters).1 (splitSign characters).2 := by
  have visible : ∀ character ∈ characters, Text.isVisible character := fun character inside =>
    isVisible_of_mem_realAlphabet (known character inside)
  have none : '_' ∉ characters := fun inside => (ne_of_mem_realAlphabet (known '_' inside)).1 rfl
  rw [readReal?, Text.plainDigits_of_isVisible visible, dropUnderscores?_of_notMem none]
  rfl

/-- A digit is no sign. -/
theorem splitSign_of_isDigit {first : Char} (digit : first.isDigit) (rest : List Char) :
    splitSign (first :: rest) = (false, first :: rest) := by
  unfold splitSign
  split
  · rename_i same
    simp [(List.cons.inj same).1] at digit
  · rename_i same
    simp [(List.cons.inj same).1] at digit
  · rfl

theorem readUnsigned?_of_isDigit (negative : Bool) {first : Char} (digit : first.isDigit) (rest : List Char) :
    readUnsigned? negative (first :: rest) =
      (readDecimal? (first :: rest)).map fun (mantissa, exponent) => .decimal negative mantissa exponent := by
  have unnamed (letter : Char) {name : List Char} (starts : name.head? = some letter)
    (noDigit : letter.isDigit = false) :
      (first :: rest).map Char.toLower ≠ name := by
    rintro rfl
    rw [List.map_cons, List.head?_cons, toLower_of_isDigit digit, Option.some.injEq] at starts
    rw [starts, noDigit] at digit
    cases digit
  rw [readUnsigned?]
  dsimp only
  rw [if_neg (unnamed 'n' rfl rfl), if_neg]
  rintro (short | long)
  · exact unnamed 'i' rfl rfl short
  · exact unnamed 'i' rfl rfl long

/-- Digits are read up to the first character that is none. -/
theorem spanDigits_append {digits rest : List Char} (known : ∀ digit ∈ digits, digit.isDigit)
    (ends : rest = [] ∨ ∃ next others, rest = next :: others ∧ next.isDigit = false) :
    spanDigits (digits ++ rest) = (digits, rest) := by
  have stops : rest.takeWhile Char.isDigit = [] ∧ rest.dropWhile Char.isDigit = rest := by
    rcases ends with rfl | ⟨next, others, rfl, noDigit⟩
    · exact ⟨rfl, rfl⟩
    · simp [noDigit]
  rw [spanDigits, List.span_eq_takeWhile_dropWhile, List.takeWhile_append_of_pos known,
    List.dropWhile_append_of_pos known, stops.1, stops.2, List.append_nil]

/-- How an exponent is written: with its sign behind the letter, or not at all if it is zero. -/
inductive WritesExponent : Int → List Char → Prop where
  | none : WritesExponent 0 []
  | positive {digits : List Char} (nonempty : digits ≠ []) (known : ∀ digit ∈ digits, digit.isDigit) :
      WritesExponent (digitsValue digits) ('e' :: '+' :: digits)
  | negative {digits : List Char} (nonempty : digits ≠ []) (known : ∀ digit ∈ digits, digit.isDigit) :
      WritesExponent (-digitsValue digits) ('e' :: '-' :: digits)

section Exponent

variable {exponent : Int} {rest : List Char} (written : WritesExponent exponent rest)

include written

theorem readExponent?_of_writesExponent : readExponent? rest = some exponent := by
  cases written with
  | none => rfl
  | positive nonempty known =>
      have all := List.all_eq_true.mpr known
      simp [readExponent?, splitSign, nonempty, all]
  | negative nonempty known =>
      have all := List.all_eq_true.mpr known
      simp [readExponent?, splitSign, nonempty, all]

/-- Exponents stand behind all digits. -/
theorem ends_of_writesExponent : rest = [] ∨ ∃ next others, rest = next :: others ∧ next.isDigit = false := by
  cases written with
  | none => exact Or.inl rfl
  | positive => exact Or.inr ⟨_, _, rfl, rfl⟩
  | negative => exact Or.inr ⟨_, _, rfl, rfl⟩

theorem mem_realAlphabet_of_writesExponent : ∀ character ∈ rest, character ∈ realAlphabet := by
  cases written with
  | none => simp
  | positive nonempty known =>
      have digits := forall_mem_realAlphabet_of_isDigit known
      exact List.forall_mem_cons.mpr ⟨by decide, List.forall_mem_cons.mpr ⟨by decide, digits⟩⟩
  | negative nonempty known =>
      have digits := forall_mem_realAlphabet_of_isDigit known
      exact List.forall_mem_cons.mpr ⟨by decide, List.forall_mem_cons.mpr ⟨by decide, digits⟩⟩

end Exponent

/-- How a decimal is written: by digits, a point with more digits, which may be missing, and an exponent. -/
inductive WritesDecimal : Nat → Int → List Char → Prop where
  | whole {whole rest : List Char} {exponent : Int} (nonempty : whole ≠ []) (digits : ∀ digit ∈ whole, digit.isDigit)
      (behind : WritesExponent exponent rest) : WritesDecimal (digitsValue whole) exponent (whole ++ rest)
  | pointed {whole places rest : List Char} {exponent : Int} (nonempty : whole ≠ [])
    (digits : ∀ digit ∈ whole, digit.isDigit)
      (known : ∀ digit ∈ places, digit.isDigit) (behind : WritesExponent exponent rest) :
      WritesDecimal (digitsValue (whole ++ places)) (exponent - places.length) (whole ++ '.' :: (places ++ rest))

section Decimal

variable {mantissa : Nat} {exponent : Int} {characters : List Char}
    (written : WritesDecimal mantissa exponent characters)

include written

theorem readDecimal?_of_writesDecimal : readDecimal? characters = some (mantissa, exponent) := by
  cases written with
  | whole nonempty digits behind =>
      have read := readExponent?_of_writesExponent behind
      rw [readDecimal?, spanDigits_append digits (ends_of_writesExponent behind)]
      cases behind <;> simp [nonempty, read]
  | pointed nonempty digits known behind =>
      have read := readExponent?_of_writesExponent behind
      rw [readDecimal?, spanDigits_append digits (Or.inr ⟨'.', _, rfl, rfl⟩)]
      simp [spanDigits_append known (ends_of_writesExponent behind), nonempty, read]

theorem exists_cons_of_writesDecimal : ∃ first rest, characters = first :: rest ∧ first.isDigit := by
  have starts {whole rest : List Char} (nonempty : whole ≠ []) (digits : ∀ digit ∈ whole, digit.isDigit) :
      ∃ first others, whole ++ rest = first :: others ∧ first.isDigit := by
    obtain ⟨first, others, rfl⟩ := List.exists_cons_of_ne_nil nonempty
    exact ⟨first, others ++ rest, rfl, digits first List.mem_cons_self⟩
  cases written with
  | whole nonempty digits => exact starts nonempty digits
  | pointed nonempty digits => exact starts nonempty digits

theorem mem_realAlphabet_of_writesDecimal : ∀ character ∈ characters, character ∈ realAlphabet := by
  cases written with
  | whole nonempty digits behind =>
      have front := forall_mem_realAlphabet_of_isDigit digits
      exact List.forall_mem_append.mpr ⟨front, mem_realAlphabet_of_writesExponent behind⟩
  | pointed nonempty digits known behind =>
      have front := forall_mem_realAlphabet_of_isDigit digits
      have others := List.forall_mem_append.mpr
        ⟨forall_mem_realAlphabet_of_isDigit known, mem_realAlphabet_of_writesExponent behind⟩
      exact List.forall_mem_append.mpr ⟨front, List.forall_mem_cons.mpr ⟨by decide, others⟩⟩

end Decimal

/-- How a real number is written: by a name or by a decimal, with a minus sign in front of negative ones. -/
inductive WritesReal : RealNumeral → List Char → Prop where
  | nan : WritesReal .nan ['n', 'a', 'n']
  | infinite (negative : Bool) :
      WritesReal (.infinite negative) (if negative then ['-', 'i', 'n', 'f'] else ['i', 'n', 'f'])
  | decimal (negative : Bool) {mantissa : Nat} {exponent : Int} {characters : List Char}
      (written : WritesDecimal mantissa exponent characters) :
      WritesReal (.decimal negative mantissa exponent) (if negative then '-' :: characters else characters)

section Real

variable {numeral : RealNumeral} {characters : List Char} (written : WritesReal numeral characters)

include written

theorem mem_realAlphabet_of_writesReal : ∀ character ∈ characters, character ∈ realAlphabet := by
  cases written with
  | nan => simp [realAlphabet]
  | infinite negative => cases negative <;> simp [realAlphabet]
  | decimal negative written =>
      have known := mem_realAlphabet_of_writesDecimal written
      cases negative with
      | true => exact List.forall_mem_cons.mpr ⟨by decide, known⟩
      | false => exact known

theorem ne_nil_of_writesReal : characters ≠ [] := by
  cases written with
  | nan => decide
  | infinite negative => cases negative <;> decide
  | decimal negative written =>
      obtain ⟨first, rest, rfl, -⟩ := exists_cons_of_writesDecimal written
      cases negative <;> exact List.cons_ne_nil _ _

/-- A real number is read as it is written. -/
theorem readReal?_of_writesReal : readReal? characters = some numeral := by
  have known := mem_realAlphabet_of_writesReal written
  cases written with
  | nan => rfl
  | infinite negative => cases negative <;> rfl
  | decimal negative written =>
      have read := readDecimal?_of_writesDecimal written
      obtain ⟨first, rest, rfl, digit⟩ := exists_cons_of_writesDecimal written
      rw [readReal?_of_mem_realAlphabet known]
      cases negative with
      | true =>
          rw [if_pos rfl, splitSign, readUnsigned?_of_isDigit _ digit, read]
          rfl
      | false =>
          rw [if_neg (by decide), splitSign_of_isDigit digit, readUnsigned?_of_isDigit _ digit, read]
          rfl

end Real

end HalfPrecision.Numeral
