import HalfPrecision.Proofs.Except
import HalfPrecision.Proofs.Value.Text
import HalfPrecision.Vectors.Document

/-!
This file shows which documents are vector tables, and that all others are refused with the first fault that they hold.
This holds for every reader of documents. Only what a reader refuses for a reason of another kind is not reported.
-/

namespace HalfPrecision

namespace Vectors

namespace Section

theorem ofName?_eq_some_iff {name : String} {known : Section} : ofName? name = some known ↔ name = known.name := by
  constructor
  · intro found
    unfold ofName? at found
    have equal := List.find?_some found
    exact (beq_iff_eq.mp equal).symm
  · rintro rfl
    exact ofName?_name known

theorem ofName?_eq_none_iff {name : String} : ofName? name = none ↔ ∀ known : Section, name ≠ known.name := by
  rw [Option.eq_none_iff_forall_ne_some]
  exact forall_congr' fun known => not_congr ofName?_eq_some_iff

end Section

/-- An entry of a mapping is a section: a known name with a mapping. -/
def IsSection (entry : Value × Value) : Prop :=
  ∃ (known : Section) (cases : Cases), entry = (.text known.name, .map cases)

/-- The value that a table is read from. -/
def Table.value (table : Table) : Value :=
  .map (table.map fun entry => (.text entry.1, .map entry.2))

/-- The first fault that keeps a value from being a table, and what kind of thing is wrong. An unknown name is reported
whatever its content is. -/
inductive Offence : Value → LoadError → Cause → Prop where
  | notMapping {value : Value} (other : ∀ entries, value ≠ .map entries) : Offence value .notMapping .content
  | unknownSection {before after : List (Value × Value)} {name content : Value} {text : String}
      (sections : ∀ entry ∈ before, IsSection entry) (unknown : ∀ known : Section, name ≠ .text known.name)
      (written : name.toText = .ok text) :
      Offence (.map (before ++ (name, content) :: after)) (.unknownSection text) .name
  | sectionNotMapping {before after : List (Value × Value)} {content : Value} (known : Section)
      (sections : ∀ entry ∈ before, IsSection entry) (other : ∀ cases, content ≠ .map cases) :
      Offence (.map (before ++ (.text known.name, content) :: after)) (.sectionNotMapping known.name) .content

theorem readSection_section (known : Section) (cases : Cases) :
    readSection (.text known.name) (.map cases) = .ok (known.name, cases) := by
  unfold readSection
  dsimp only
  rw [Section.ofName?_name]

theorem readSection_other {known : Section} {content : Value} (other : ∀ cases, content ≠ .map cases) :
    readSection (.text known.name) content = .error (.sectionNotMapping known.name) := by
  unfold readSection
  dsimp only
  rw [Section.ofName?_name]
  cases content with
  | map cases => exact absurd rfl (other cases)
  | _ => rfl

/-- An unknown name is reported by its text, if it has one. -/
inductive UnknownName : Value → LoadError → Prop where
  | written {name : Value} {text : String} (spelled : name.toText = .ok text) : UnknownName name (.unknownSection text)
  | unwritten {name : Value} {fault : Fault} (unspelled : name.toText = .error fault) : UnknownName name .nameTooLong

theorem exists_unknownName (name : Value) : ∃ error, UnknownName name error := by
  cases spelled : name.toText with
  | ok text => exact ⟨_, .written spelled⟩
  | error fault => exact ⟨_, .unwritten spelled⟩

theorem readSection_unknown {name content : Value} {error : LoadError}
    (unknown : ∀ known : Section, name ≠ .text known.name)
    (named : UnknownName name error) : readSection name content = .error error := by
  cases name with
  | text name =>
      have missing : Section.ofName? name = none := by
        rw [Section.ofName?_eq_none_iff]
        rintro known rfl
        exact unknown known rfl
      unfold readSection
      dsimp only
      cases named with
      | written spelled => cases content <;> simp only [missing, spelled]
      | unwritten unspelled => cases content <;> simp only [missing, unspelled]
  | _ =>
      unfold readSection
      dsimp only
      cases named with
      | written spelled => rw [spelled]
      | unwritten unspelled => rw [unspelled]

/-- The name of an entry is known, and its content is a mapping, or one of both is not so. -/
theorem readSection_cases (name content : Value) :
    (∃ (known : Section) (cases : Cases), name = .text known.name ∧ content = .map cases) ∨
      (∃ known : Section, name = .text known.name ∧ ∀ cases, content ≠ .map cases) ∨
      ∀ known : Section, name ≠ .text known.name := by
  by_cases known : ∃ known : Section, name = .text known.name
  · obtain ⟨known, same⟩ := known
    by_cases mapping : ∃ cases, content = .map cases
    · obtain ⟨cases, map⟩ := mapping
      exact Or.inl ⟨known, cases, same, map⟩
    · exact Or.inr (Or.inl ⟨known, same, not_exists.mp mapping⟩)
  · exact Or.inr (Or.inr (not_exists.mp known))

theorem readSection_eq_ok_iff {name content : Value} {entry : String × Cases} :
    readSection name content = .ok entry ↔
      (∃ known : Section, entry.1 = known.name) ∧ name = .text entry.1 ∧ content = .map entry.2 := by
  constructor
  · intro read
    rcases readSection_cases name content with ⟨known, cases, rfl, rfl⟩ | ⟨known, rfl, other⟩ | unknown
    · rw [readSection_section] at read
      obtain rfl := Except.ok.inj read
      exact ⟨⟨known, rfl⟩, rfl, rfl⟩
    · rw [readSection_other other] at read
      cases read
    · obtain ⟨error, named⟩ := exists_unknownName name
      rw [readSection_unknown unknown named] at read
      cases read
  · obtain ⟨sectionName, cases⟩ := entry
    rintro ⟨⟨known, rfl⟩, rfl, rfl⟩
    exact readSection_section known cases

/-- An entry is refused for its content if its name is known, and for its name otherwise. -/
theorem readSection_eq_error {name content : Value} {error : LoadError}
    (refused : readSection name content = .error error) :
    (∃ known : Section, name = .text known.name ∧ (∀ cases, content ≠ .map cases) ∧
        error = .sectionNotMapping known.name) ∨
      (∀ known : Section, name ≠ .text known.name) ∧ UnknownName name error := by
  rcases readSection_cases name content with ⟨known, cases, rfl, rfl⟩ | ⟨known, rfl, other⟩ | unknown
  · rw [readSection_section] at refused
    cases refused
  · rw [readSection_other other] at refused
    exact Or.inl ⟨known, rfl, other, (Except.error.inj refused).symm⟩
  · obtain ⟨first, named⟩ := exists_unknownName name
    rw [readSection_unknown unknown named] at refused
    obtain rfl := Except.error.inj refused
    exact Or.inr ⟨unknown, named⟩

theorem isSection_iff {entry : Value × Value} :
    IsSection entry ↔ ∃ result, readSection entry.1 entry.2 = .ok result := by
  constructor
  · rintro ⟨known, cases, rfl⟩
    exact ⟨_, readSection_section known cases⟩
  · rintro ⟨result, read⟩
    obtain ⟨⟨known, same⟩, name, content⟩ := readSection_eq_ok_iff.mp read
    exact ⟨known, result.2, Prod.ext (same ▸ name) content⟩

theorem tableOf_map (entries : List (Value × Value)) :
    tableOf (.map entries) = entries.mapM fun entry => readSection entry.1 entry.2 := rfl

/-- A value is a table if it maps known names to mappings. -/
theorem tableOf_eq_ok_iff {value : Value} {table : Table} :
    tableOf value = .ok table ↔ value = table.value ∧ ∀ entry ∈ table, ∃ known : Section, entry.1 = known.name := by
  constructor
  · intro read
    cases value with
    | map entries =>
        rw [tableOf_map, mapM_eq_ok_iff] at read
        have sections := read.imp fun entry result => readSection_eq_ok_iff.mp
        have same : List.Forall₂ (fun entry (result : String × Cases) => entry = (.text result.1, .map result.2))
            entries table := sections.imp fun entry result known => Prod.ext known.2.1 known.2.2
        rw [← List.forall₂_map_right_iff, List.forall₂_eq_eq_eq] at same
        subst same
        rw [List.forall₂_map_left_iff, List.forall₂_same] at sections
        exact ⟨rfl, fun entry inside => (sections entry inside).1⟩
    | _ => cases read
  · rintro ⟨rfl, known⟩
    rw [Table.value, tableOf_map, mapM_eq_ok_iff, List.forall₂_map_left_iff, List.forall₂_same]
    intro entry inside
    exact readSection_eq_ok_iff.mpr ⟨known entry inside, rfl, rfl⟩

/-- A value is no table because of its first offence, if all names in it are short enough for a text. -/
theorem tableOf_eq_error_iff {value : Value} {error : LoadError}
    (written : ∀ entries, value = .map entries → ∀ entry ∈ entries, ∃ text, entry.1.toText = .ok text) :
    tableOf value = .error error ↔ ∃ cause, Offence value error cause ∧ error.cause? = some cause := by
  constructor
  · intro refused
    cases value with
    | map entries =>
        rw [tableOf_map] at refused
        obtain ⟨before, ⟨name, content⟩, after, rfl, earlier, refused⟩ := mapM_eq_error_iff.mp refused
        dsimp only at refused
        have sections : ∀ entry ∈ before, IsSection entry :=
          fun entry inside => isSection_iff.mpr (earlier entry inside)
        rcases readSection_eq_error refused with ⟨known, rfl, other, rfl⟩ | ⟨unknown, named⟩
        · exact ⟨_, .sectionNotMapping known sections other, rfl⟩
        · cases named with
          | written spelled => exact ⟨_, .unknownSection sections unknown spelled, rfl⟩
          | unwritten unspelled =>
              obtain ⟨text, spelled⟩ := written _ rfl (name, content) (by simp)
              rw [unspelled] at spelled
              cases spelled
    | _ =>
        obtain rfl := Except.error.inj refused
        exact ⟨_, .notMapping (by simp), rfl⟩
  · rintro ⟨cause, offence, -⟩
    cases offence with
    | notMapping other =>
        unfold tableOf
        split
        · exact absurd rfl (other _)
        · rfl
    | unknownSection sections unknown spelled =>
        rw [tableOf_map]
        refine mapM_eq_error_iff.mpr ⟨_, _, _, rfl, fun entry inside => isSection_iff.mp (sections entry inside), ?_⟩
        exact readSection_unknown unknown (.written spelled)
    | sectionNotMapping known sections other =>
        rw [tableOf_map]
        refine mapM_eq_error_iff.mpr ⟨_, _, _, rfl, fun entry inside => isSection_iff.mp (sections entry inside), ?_⟩
        exact readSection_other other

/-- A value that is no table is not refused by the reader. -/
theorem tableOf_ne_refused {value : Value} {refusal : Refusal} : tableOf value ≠ .error (.refused refusal) := by
  intro refused
  cases value with
  | map entries =>
      rw [tableOf_map] at refused
      obtain ⟨-, entry, -, -, -, refused⟩ := mapM_eq_error_iff.mp refused
      rcases readSection_eq_error refused with ⟨known, -, -, impossible⟩ | ⟨-, named⟩
      · cases impossible
      · cases named
  | _ => cases refused

/-- What keeps a table from being loaded is reported, unless the reader refuses the document for another kind of
reason. -/
theorem LoadError.cause?_eq_none_iff {error : LoadError} :
    error.cause? = none ↔ ∃ kind message, error = .refused (.unreported kind message) := by
  cases error with
  | refused refusal => cases refusal <;> simp [cause?]
  | _ => simp [cause?]

section Documents

variable {read : DocumentReader} {path : String} {bytes : List UInt8} (valid : '\x00' ∉ path.toList)

include valid

theorem load_eq_tableOf {value : Value} (known : read bytes = .ok value) :
    load read path (.bytes bytes) = tableOf value := by
  unfold load
  rw [if_neg (by simpa using valid)]
  dsimp only
  rw [known]

theorem load_eq_refused {refusal : Refusal} (refused : read bytes = .error refusal) :
    load read path (.bytes bytes) = .error (.refused refusal) := by
  unfold load
  rw [if_neg (by simpa using valid)]
  dsimp only
  rw [refused]

end Documents

theorem load_eq_refused_iff {read : DocumentReader} {path : String} {content : FileContent} {refusal : Refusal} :
    load read path content = .error (.refused refusal) ↔
      ∃ bytes, content = .bytes bytes ∧ '\x00' ∉ path.toList ∧ read bytes = .error refusal := by
  constructor
  · intro refused
    unfold load at refused
    split_ifs at refused with null
    · cases refused
    cases content with
    | unreadable fault => cases refused
    | bytes bytes =>
        dsimp only at refused
        split at refused
        · exact absurd refused tableOf_ne_refused
        · rename_i first known
          obtain rfl := LoadError.refused.inj (Except.error.inj refused)
          exact ⟨bytes, rfl, by simpa using null, known⟩
  · rintro ⟨bytes, rfl, valid, known⟩
    exact load_eq_refused valid known

/-- A table that is loaded is the value that the reader gives. -/
theorem exists_value_of_load {read : DocumentReader} {path : String} {content : FileContent} {table : Table}
    (loaded : load read path content = .ok table) :
    (∃ bytes, content = .bytes bytes ∧ read bytes = .ok table.value) ∧
      ∀ entry ∈ table, ∃ known : Section, entry.1 = known.name := by
  unfold load at loaded
  split_ifs at loaded
  cases content with
  | unreadable fault => cases loaded
  | bytes bytes =>
      dsimp only at loaded
      split at loaded
      · rename_i value known
        obtain ⟨rfl, names⟩ := tableOf_eq_ok_iff.mp loaded
        exact ⟨⟨bytes, rfl, known⟩, names⟩
      · cases loaded

/-- A table is loaded or it is reported why not, unless the reader refuses the document for a reason that is not
reported. -/
theorem load_reported_iff (read : DocumentReader) (path : String) (content : FileContent) :
    ((∃ table, load read path content = .ok table) ∨
        ∃ error cause, load read path content = .error error ∧ error.cause? = some cause) ↔
      ¬∃ bytes kind message, content = .bytes bytes ∧ '\x00' ∉ path.toList ∧
        read bytes = .error (.unreported kind message) := by
  have unreported : (∃ bytes kind message, content = .bytes bytes ∧ '\x00' ∉ path.toList ∧
      read bytes = .error (.unreported kind message)) ↔
      ∃ error, load read path content = .error error ∧ error.cause? = none := by
    constructor
    · rintro ⟨bytes, kind, message, same, valid, refused⟩
      exact ⟨_, load_eq_refused_iff.mpr ⟨bytes, same, valid, refused⟩, rfl⟩
    · rintro ⟨error, refused, silent⟩
      obtain ⟨kind, message, rfl⟩ := LoadError.cause?_eq_none_iff.mp silent
      obtain ⟨bytes, same, valid, known⟩ := load_eq_refused_iff.mp refused
      exact ⟨bytes, kind, message, same, valid, known⟩
  rw [unreported]
  cases load read path content with
  | ok table => simp
  | error error => simp [Option.ne_none_iff_exists']

/-- Whatever the reader of documents is, a file is loaded as a table or it is reported why not, unless the reader
refuses it for a reason that is not reported, and a value that it gives is a table or has a first offence. -/
theorem load_table_or_report (read : DocumentReader) (path : String) (content : FileContent) :
    (((∃ table, load read path content = .ok table) ∨
        ∃ error cause, load read path content = .error error ∧ error.cause? = some cause ∧
          ∀ source, ∃ text, error.report source = "unable to load vectors from " ++ source ++ ": " ++ text) ↔
      ¬∃ bytes kind message, content = .bytes bytes ∧ '\x00' ∉ path.toList ∧
        read bytes = .error (.unreported kind message)) ∧
    (∀ table, load read path content = .ok table →
      (∃ bytes, content = .bytes bytes ∧ read bytes = .ok table.value) ∧
        ∀ entry ∈ table, ∃ known : Section, entry.1 = known.name) ∧
    (∀ bytes refusal, content = .bytes bytes → '\x00' ∉ path.toList → read bytes = .error refusal →
      load read path content = .error (.refused refusal)) ∧
    ∀ bytes value, content = .bytes bytes → '\x00' ∉ path.toList → read bytes = .ok value →
      (∀ entries, value = .map entries → ∀ entry ∈ entries, entry.1.toText ≠ .error .textTooLong) →
      (∀ table, load read path content = .ok table ↔
        value = table.value ∧ ∀ entry ∈ table, ∃ known : Section, entry.1 = known.name) ∧
      ∀ error, load read path content = .error error ↔
        ∃ cause, Offence value error cause ∧ error.cause? = some cause := by
  refine ⟨?_, fun table => exists_value_of_load, ?_, ?_⟩
  · have starts (error : LoadError) (source : String) :
        ∃ text, error.report source = "unable to load vectors from " ++ source ++ ": " ++ text := ⟨error.text, rfl⟩
    simpa only [starts, implies_true, and_true] using load_reported_iff read path content
  · rintro bytes refusal rfl valid refused
    exact load_eq_refused valid refused
  · rintro bytes value rfl valid known short
    rw [load_eq_tableOf valid known]
    refine ⟨fun table => tableOf_eq_ok_iff, fun error => tableOf_eq_error_iff ?_⟩
    intro entries same entry inside
    exact Value.exists_toText (short entries same entry inside)

/-- Whether a value maps `hex` to an empty map and three to four. -/
def isUnknownSectionSample : Except Refusal Value → Bool
  | .ok (.map [(.text first, .map []), (.int second, .int content)]) => first == "hex" && second == 3 && content == 4
  | _ => false

theorem readYaml_unknownSection :
    readYaml "hex: {}\n3: 4\n".toUTF8.toList = .ok (.map [(.text "hex", .map []), (.int 3, .int 4)]) := by
  have shape : isUnknownSectionSample (readYaml "hex: {}\n3: 4\n".toUTF8.toList) = true := by decide +kernel
  unfold isUnknownSectionSample at shape
  split at shape
  · rename_i first second content known
    simp only [Bool.and_eq_true, beq_iff_eq] at shape
    obtain ⟨⟨rfl, rfl⟩, rfl⟩ := shape
    exact known
  · cases shape

/-- A missing file, and a document whose second name is not that of a section. -/
theorem load_table_or_report_documents :
    ((∃ table, load readYaml "table.yaml" (.unreadable .missing) = .ok table) ∨
      ∃ error cause, load readYaml "table.yaml" (.unreadable .missing) = .error error ∧ error.cause? = some cause ∧
        ∀ source, ∃ text, error.report source = "unable to load vectors from " ++ source ++ ": " ++ text) ∧
    load readYaml "table.yaml" (.bytes "hex: {}\n3: 4\n".toUTF8.toList) = .error (.unknownSection "3") := by
  obtain ⟨reported, -, -, -⟩ := load_table_or_report readYaml "table.yaml" (.unreadable .missing)
  obtain ⟨-, -, -, documents⟩ := load_table_or_report readYaml "table.yaml" (.bytes "hex: {}\n3: 4\n".toUTF8.toList)
  constructor
  · refine reported.mpr ?_
    rintro ⟨bytes, kind, message, impossible, -⟩
    cases impossible
  · have short : ∀ entries, Value.map [(.text "hex", .map []), (.int 3, .int 4)] = .map entries →
        ∀ entry ∈ entries, entry.1.toText ≠ .error .textTooLong := by
      rintro entries same
      obtain rfl := Value.map.inj same
      decide +kernel
    rw [(documents _ _ rfl (by decide) readYaml_unknownSection short).2]
    have offence : Offence (.map ([(.text "hex", .map [])] ++ (.int 3, .int 4) :: [])) (.unknownSection "3") .name := by
      refine .unknownSection ?_ ?_ ?_
      · intro entry inside
        rw [List.mem_singleton] at inside
        exact ⟨.hex, [], inside⟩
      · intro known same
        cases same
      · decide +kernel
    exact ⟨.name, offence, rfl⟩

/-- A document that is not reported: an integer without any character. -/
theorem load_unreported_emptyNumber :
    ∃ error, load readYaml "table.yaml" (.bytes "hex: !!int ''\n".toUTF8.toList) = .error error ∧
      error.cause? = none := by
  have refused : (load readYaml "table.yaml" (.bytes "hex: !!int ''\n".toUTF8.toList)).map (fun _ => ()) =
      .error (.refused (.unreported "index" "string index out of range")) := by
    decide +kernel
  exact ⟨_, map_eq_error_iff.mp refused, rfl⟩

end Vectors

end HalfPrecision
