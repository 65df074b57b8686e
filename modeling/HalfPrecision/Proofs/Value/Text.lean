import HalfPrecision.Proofs.Except
import HalfPrecision.Value.Text
import Mathlib.Tactic.SplitIfs

/-! This file shows that values have texts unless an integer in them is too long. -/

namespace HalfPrecision.Value

theorem integerText_eq_error {number : Int} {fault : Fault} (refused : integerText number = .error fault) :
    fault = .textTooLong := by
  unfold integerText at refused
  split_ifs at refused
  exact (Except.error.inj refused).symm

mutual

theorem characters_eq_error (value : Value) {fault : Fault} (refused : characters value = .error fault) :
    fault = .textTooLong := by
  cases value with
  | int number => exact integerText_eq_error refused
  | fraction value =>
      unfold characters at refused
      rcases bind_eq_error_iff.mp refused with numerator | ⟨numerator, -, refused⟩
      · exact integerText_eq_error numerator
      · exact integerText_eq_error (bind_pure_eq_error_iff.mp refused)
  | list items =>
      unfold characters at refused
      exact itemTexts_eq_error items (bind_pure_eq_error_iff.mp refused)
  | pair first second =>
      unfold characters at refused
      rcases bind_eq_error_iff.mp refused with left | ⟨left, -, refused⟩
      · exact characters_eq_error first left
      · exact characters_eq_error second (bind_pure_eq_error_iff.mp refused)
  | set items =>
      by_cases empty : items = []
      · subst empty
        cases refused
      · rw [characters] at refused
        · exact itemTexts_eq_error items (bind_pure_eq_error_iff.mp refused)
        · exact empty
  | map entries =>
      unfold characters at refused
      exact entryTexts_eq_error entries (bind_pure_eq_error_iff.mp refused)
  | _ => cases refused

theorem itemTexts_eq_error (items : List Value) {fault : Fault} (refused : itemTexts items = .error fault) :
    fault = .textTooLong := by
  match items with
  | [] => cases refused
  | item :: rest =>
      unfold itemTexts at refused
      rcases bind_eq_error_iff.mp refused with first | ⟨first, -, refused⟩
      · exact characters_eq_error item first
      · exact itemTexts_eq_error rest (bind_pure_eq_error_iff.mp refused)

theorem entryTexts_eq_error (entries : List (Value × Value)) {fault : Fault}
    (refused : entryTexts entries = .error fault) :
    fault = .textTooLong := by
  match entries with
  | [] => cases refused
  | (key, value) :: rest =>
      unfold entryTexts at refused
      rcases bind_eq_error_iff.mp refused with first | ⟨first, -, refused⟩
      · exact characters_eq_error key first
      · rcases bind_eq_error_iff.mp refused with second | ⟨second, -, refused⟩
        · exact characters_eq_error value second
        · exact entryTexts_eq_error rest (bind_pure_eq_error_iff.mp refused)

end

/-- The only reason why a value has no text is an integer in it that is too long. -/
theorem exists_toText {value : Value} (short : value.toText ≠ .error .textTooLong) :
    ∃ text, value.toText = .ok text := by
  cases written : value.toText with
  | ok text => exact ⟨text, rfl⟩
  | error fault =>
      rw [characters_eq_error value (bind_pure_eq_error_iff.mp written)] at written
      exact absurd written short

end HalfPrecision.Value
