/-! This file defines the written form of paths, without empty parts and parts of a single point. -/

namespace HalfPrecision.CommandLine

/-- Splits a path at slashes. -/
def splitSlashes : List Char → List (List Char)
  | [] => [[]]
  | '/' :: rest => [] :: splitSlashes rest
  | character :: rest =>
    match splitSlashes rest with
    | part :: parts => (character :: part) :: parts
    | [] => [[character]]

/-- The slashes that a path keeps at its start: two if there are exactly two, and one if there are others. -/
def rootOf (characters : List Char) : List Char :=
  let count := (characters.takeWhile (· == '/')).length
  if count = 0 then [] else if count = 2 then ['/', '/'] else ['/']

/-- The written form of a path. -/
def normalizePath (path : String) : String :=
  let characters := path.toList
  let parts := (splitSlashes characters).filter fun part => !part.isEmpty && part != ['.']
  let written := rootOf characters ++ ['/'].intercalate parts
  String.ofList (if written.isEmpty then ['.'] else written)

end HalfPrecision.CommandLine
