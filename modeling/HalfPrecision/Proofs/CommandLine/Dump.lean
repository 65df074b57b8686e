import HalfPrecision.CommandLine.Dump
import HalfPrecision.Operation
import HalfPrecision.Proofs.Except
import Mathlib.Data.List.TakeDrop
import Mathlib.Data.List.TakeWhile

/-!
This file shows what the program that describes halves prints and how it ends. It describes either all its values, in
their order, or none of them.
-/

namespace HalfPrecision

/-- Texts are refused for no other reason than that they are no numerals. -/
theorem Half.refusal_of_ofText {text : String} {refusal : Numeral.Refusal}
    (refused : Half.ofText text = .error refusal) :
    refusal = .malformedInteger 16 text ∨ refusal = .malformedReal text := by
  rw [Half.ofText] at refused
  split at refused
  · -- Digits are counted only in decimal integers.
    simp only [Numeral.readInteger, Nat.reduceEqDiff, if_false] at refused
    split at refused
    · exact Or.inl (Except.error.inj refused).symm
    · cases refused
  · rw [map_eq_error_iff, Binary64.ofText] at refused
    split at refused
    · cases refused
    · exact Or.inr (Except.error.inj refused).symm

/-- Code points are refused for no other reason than that they are no numerals, and surrogates never are. -/
theorem Half.refusal_of_ofCodes {codes : List Nat} {refusal : Numeral.Refusal}
    (refused : Half.ofCodes codes = .error refusal) :
    refusal = .malformedInteger 16 (Text.ofCodes codes) ∨ refusal = .malformedReal (Text.ofCodes codes) ∨
      refusal = .brokenInteger 16 codes ∨ refusal = .brokenReal codes := by
  unfold Half.ofCodes at refused
  split_ifs at refused with broken
  · obtain rfl := Except.error.inj refused
    unfold Half.refusalOf
    split_ifs <;> simp
  · rcases Half.refusal_of_ofText refused with rfl | rfl <;> simp

theorem Half.ofCodes_codes (text : String) : Half.ofCodes (Text.codes text) = Half.ofText text := by
  rw [Half.ofCodes, if_neg (by simp [Text.any_isSurrogate_codes]), Text.ofCodes_codes]

/-- The text that code points make is read like the code points. -/
theorem Operation.evaluate?_halfOfText (codes : List Nat) :
    Operation.halfOfText.evaluate? [Value.ofCodes codes] =
      some (((Half.ofCodes codes).mapError Fault.numeral).map Value.int) := by
  unfold Value.ofCodes Half.ofCodes
  split_ifs <;> rfl

namespace CommandLine

/-- Two dashes in front of arguments make all of them values, whatever they look like. -/
theorem Interface.read_dashes (accepted : Interface) (wanted : accepted.takesValues = true) {values : List (List Nat)}
    (given : values ≠ []) : accepted.read (Text.codes "--" :: values) = ⟨[.values values], [], none⟩ := by
  have argued : ∀ piece ∈ Piece.dashes :: values.map Piece.value, piece.argument?.isSome := by
    simp [Piece.argument?]
  have dashed : (Piece.dashes :: values.map Piece.value).span (fun piece => piece.argument?.isSome) =
      (Piece.dashes :: values.map Piece.value, []) := by
    rw [List.span_eq_takeWhile_dropWhile, List.takeWhile_eq_self_iff.mpr argued, List.dropWhile_eq_nil_iff.mpr argued]
  have kept : (Piece.dashes :: values.map Piece.value).filterMap Piece.value? = values := by
    rw [List.filterMap_cons_none rfl, List.filterMap_map]
    exact List.filterMap_some
  have present : values.isEmpty = false := by
    simpa using given
  rw [Interface.read, Interface.pieces, if_pos rfl]
  simp only [List.length_cons, Interface.requests, wanted, dashed, kept, present]
  simp [Requests.ask, Requests.empty]

/-- An option without an argument in front of other arguments is asked for before what they ask for. -/
theorem Interface.read_switch (accepted : Interface) {name : String} {switch : Switch}
    (known : Text.codes name ≠ Text.codes "--")
    (found : accepted.classify (Text.codes name) = .ok (.use ⟨switch, name, none⟩))
    (alone : switch.takesArgument = false) (arguments : List (List Nat))
    (fine : ∃ pieces, accepted.pieces arguments = .ok pieces) :
    accepted.read (Text.codes name :: arguments) = (accepted.read arguments).ask [.switch switch none] := by
  obtain ⟨pieces, told⟩ := fine
  have all : accepted.pieces (Text.codes name :: arguments) = .ok (.use ⟨switch, name, none⟩ :: pieces) := by
    rw [Interface.pieces, if_neg known, found, told]
    rfl
  simp [Interface.read, all, told, Interface.requests, Interface.expand, alone]

namespace Dump

/-- The values are read one after the other, until one is refused. -/
theorem readValues_eq_mapM (values : List (List Nat)) :
    readValues values = values.mapM fun value => (Half.ofCodes value).mapError fun _ => .invalidValue value := by
  induction values with
  | nil => rfl
  | cons value rest ih =>
      rw [readValues, List.mapM_cons, ih]
      cases Half.ofCodes value with
      | error refusal => rfl
      | ok word =>
          cases rest.mapM fun value => (Half.ofCodes value).mapError fun _ => UsageError.invalidValue value <;> rfl

theorem readValues_eq_ok_iff {values : List (List Nat)} {words : List Int} :
    readValues values = .ok words ↔ List.Forall₂ (fun value word => Half.ofCodes value = .ok word) values words := by
  simp only [readValues_eq_mapM, mapM_eq_ok_iff, mapError_eq_ok_iff]

theorem readValues_eq_error_iff {values : List (List Nat)} {error : UsageError} :
    readValues values = .error error ↔ ∃ before value after, values = before ++ value :: after ∧
      (∀ earlier ∈ before, ∃ word, Half.ofCodes earlier = .ok word) ∧
        ∃ refusal, Half.ofCodes value = .error refusal ∧ .invalidValue value = error := by
  simp only [readValues_eq_mapM, mapM_eq_error_iff, mapError_eq_ok_iff, mapError_eq_error_iff]

/-- The program with two dashes in front of its values prints what these values ask for. -/
theorem run_dashes (traced : Bool) {values : List (List Nat)} (given : values ≠ []) :
    run ((if traced then [Text.codes "-t"] else []) ++ Text.codes "--" :: values) =
      match readValues values with
      | .error error => manual.refuse error
      | .ok words => ⟨joinLines (words.map (Half.describe traced)), "", .exit 0⟩ := by
  have dashes := interface.read_dashes rfl given
  cases traced with
  | false =>
      simp only [run, Bool.false_eq_true, if_false, List.nil_append, dashes, follow]
      cases readValues values <;> rfl
  | true =>
      have found : interface.classify (Text.codes "-t") = .ok (.use ⟨traceSwitch, "-t", none⟩) := rfl
      have both := interface.read_switch (by decide) found rfl (Text.codes "--" :: values) ⟨_, rfl⟩
      simp only [run, if_true, List.singleton_append, both, dashes, Requests.ask, follow]
      cases readValues values <;> rfl

/-- The program describes all its values in their order, or it describes none and names the first value that cannot be
read. The values may be any code points. -/
theorem run_all_or_nothing (traced : Bool) (values : List (List Nat)) (given : values ≠ []) :
    (∀ words, List.Forall₂ (fun value word => Half.ofCodes value = .ok word) values words →
      run ((if traced then [Text.codes "-t"] else []) ++ Text.codes "--" :: values) =
        ⟨String.join (words.map fun word => Half.describe traced word ++ "\n"), "", .exit 0⟩) ∧
    ((∃ value ∈ values, ∃ refusal, Half.ofCodes value = .error refusal) →
      ∃ before value after refusal, values = before ++ value :: after ∧
        (∀ earlier ∈ before, ∃ word, Half.ofCodes earlier = .ok word) ∧ Half.ofCodes value = .error refusal ∧
        (refusal = .malformedInteger 16 (Text.ofCodes value) ∨ refusal = .malformedReal (Text.ofCodes value) ∨
          refusal = .brokenInteger 16 value ∨ refusal = .brokenReal value) ∧
        run ((if traced then [Text.codes "-t"] else []) ++ Text.codes "--" :: values) =
          ⟨"", "usage: tinyhalf-dump [-h] [-t] values [values ...]\ntinyhalf-dump: error: " ++
            ("argument values: invalid parse_value value: " ++ String.ofList (Text.quotedCodes value)) ++ "\n",
            .exit 2⟩) ∧
    (∀ text : String, Half.ofCodes (Text.codes text) = Half.ofText text ∧
      Text.quotedCodes (Text.codes text) = Text.quoted text.toList) ∧
    ∀ (value : List Nat) (word : Int),
      Operation.halfOfText.evaluate? [Value.ofCodes value] =
        some (((Half.ofCodes value).mapError Fault.numeral).map Value.int) ∧
      Operation.describe.evaluate? [.int word, .bool traced] = some (.ok (.text (Half.describe traced word))) := by
  have printed := run_dashes traced given
  refine ⟨?_, ?_, fun text => ⟨Half.ofCodes_codes text, Text.quotedCodes_codes text⟩,
    fun value word => ⟨Operation.evaluate?_halfOfText value, rfl⟩⟩
  · intro words read
    rw [printed, readValues_eq_ok_iff.mpr read]
    simp [joinLines, Function.comp_def]
  · rintro ⟨value, inside, refusal, refused⟩
    cases read : readValues values with
    | ok words =>
        have each := exists_mapM_eq_ok_iff.mp ⟨words, mapM_eq_ok_iff.mpr (readValues_eq_ok_iff.mp read)⟩
        obtain ⟨word, known⟩ := each value inside
        cases refused.symm.trans known
    | error error =>
        obtain ⟨before, bad, after, split, earlier, cause, badly, rfl⟩ := readValues_eq_error_iff.mp read
        refine ⟨before, bad, after, cause, split, earlier, badly, Half.refusal_of_ofCodes badly, ?_⟩
        rw [printed, read]
        rfl

/-- Values that look like options are described, and a second pair of dashes and a surrogate cannot be read. -/
theorem run_all_or_nothing_dashes :
    run [Text.codes "-t", Text.codes "--", Text.codes "-0x1", Text.codes "-inf"] =
      ⟨"ffff: nan                    nan  NaN  sign=- exp=16 sig=0x3ff\n" ++
        "fc00: inf                   -inf  -Infinity  sign=- exp=16 sig=0x000\n", "", .exit 0⟩ ∧
    (run [Text.codes "--", Text.codes "-0x1", Text.codes "--"]).output = "" ∧
    (run [Text.codes "--", Text.codes "-0x1", Text.codes "--"]).ending = .exit 2 ∧
    (run [Text.codes "--", [0xdcff]]).output = "" ∧ (run [Text.codes "--", [0xdcff]]).ending = .exit 2 := by
  have first : Half.ofCodes (Text.codes "-0x1") = .ok (-1) := rfl
  have second : Half.ofCodes (Text.codes "-inf") = .ok 0xfc00 := rfl
  have last : Half.ofCodes (Text.codes "--") = .error (.malformedReal "--") := rfl
  have broken : Half.ofCodes [0xdcff] = .error (.brokenReal [0xdcff]) := rfl
  refine ⟨?_, ?_⟩
  · have described := (run_all_or_nothing true [Text.codes "-0x1", Text.codes "-inf"] (by simp)).1 [-1, 0xfc00]
      (.cons first (.cons second .nil))
    simp only [if_true, List.singleton_append] at described
    rw [described]
    rfl
  · obtain ⟨_, _, _, _, -, -, -, -, dashes⟩ :=
      (run_all_or_nothing false [Text.codes "-0x1", Text.codes "--"] (by simp)).2.1 ⟨_, by simp, _, last⟩
    obtain ⟨_, _, _, _, -, -, -, -, surrogate⟩ :=
      (run_all_or_nothing false [[0xdcff]] (by simp)).2.1 ⟨_, by simp, _, broken⟩
    simp only [Bool.false_eq_true, if_false, List.nil_append] at dashes surrogate
    rw [dashes, surrogate]
    exact ⟨rfl, rfl, rfl, rfl⟩

end Dump

end CommandLine

end HalfPrecision
