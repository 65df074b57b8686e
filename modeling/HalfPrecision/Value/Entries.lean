import HalfPrecision.Value

/-! This file defines how the entries of a map are collected. A repeated key keeps its first place and its first
spelling, and takes the last value. -/

namespace HalfPrecision.Value

/-- Whether values of its kind may be keys. -/
def isKey : Value → Bool
  | list _ => false
  | set _ => false
  | map _ => false
  | enclosing _ => false
  | _ => true

/-- Puts an entry into a map whose keys are told apart by `same`. -/
def insertEntry {Key Content : Type} (same : Key → Key → Bool) (entries : List (Key × Content)) (key : Key)
    (content : Content) : List (Key × Content) :=
  match entries with
  | [] => [(key, content)]
  | entry :: rest =>
    if same entry.1 key then (entry.1, content) :: rest else entry :: insertEntry same rest key content

/-- Collects entries in their order. -/
def collectEntries {Key Content : Type} (same : Key → Key → Bool) (entries : List (Key × Content)) :
    List (Key × Content) :=
  entries.foldl (fun collected entry => insertEntry same collected entry.1 entry.2) []

end HalfPrecision.Value
