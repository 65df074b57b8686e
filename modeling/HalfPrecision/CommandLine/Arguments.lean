import HalfPrecision.Text.Codes
import HalfPrecision.Text.DecimalDigit

/-!
This file defines how the arguments of a program are told apart: options, which may be abbreviated or clustered, their
arguments, and values. Arguments are given by their code points, as bytes that are no characters become surrogates. The
first failure ends the reading, and what was read before it takes effect first.
-/

namespace HalfPrecision.CommandLine

/-- An option of a program, under all its names. -/
structure Switch where
  names : List String
  takesArgument : Bool
deriving DecidableEq

/-- The names of an option as messages give them. -/
def Switch.title (switch : Switch) : String := "/".intercalate switch.names

/-- The options of a program, and whether it accepts values. -/
structure Interface where
  switches : List Switch
  /-- If values are accepted, there must be one at least. -/
  takesValues : Bool

/-- All names of options, with their options. -/
def Interface.named (accepted : Interface) : List (String × Switch) :=
  accepted.switches.flatMap fun switch => switch.names.map fun name => (name, switch)

/-- The option that an argument names, with its name. -/
def Interface.find? (accepted : Interface) (argument : List Nat) : Option (String × Switch) :=
  accepted.named.find? fun (name, _) => Text.codes name == argument

/-- An argument that names an option, and what is attached to the name. -/
structure Use where
  switch : Switch
  name : String
  attached : Option (List Nat)

/-- What an argument is. -/
inductive Piece where
  | value (argument : List Nat)
  /-- Two dashes, after which there are only values. -/
  | dashes
  | use (use : Use)
  /-- An option that is not known. -/
  | unknown (argument : List Nat)

/-- Why arguments are refused. -/
inductive UsageError where
  | ambiguous (argument : List Nat) (names : List String)
  | unusedArgument (switch : Switch) (attached : List Nat)
  | missingArgument (switch : Switch)
  | invalidValue (argument : List Nat)
  | missingValues
  | unrecognized (arguments : List (List Nat))
deriving DecidableEq

def UsageError.message : UsageError → String
  | .ambiguous argument names =>
    "ambiguous option: " ++ Text.printed argument ++ " could match " ++ ", ".intercalate names
  | .unusedArgument switch attached =>
    "argument " ++ switch.title ++ ": ignored explicit argument " ++ String.ofList (Text.quotedCodes attached)
  | .missingArgument switch => "argument " ++ switch.title ++ ": expected one argument"
  | .invalidValue argument =>
    "argument values: invalid parse_value value: " ++ String.ofList (Text.quotedCodes argument)
  | .missingValues => "the following arguments are required: values"
  | .unrecognized arguments => "unrecognized arguments: " ++ " ".intercalate (arguments.map Text.printed)

/-- Whether characters are digits of any script, and at least one. -/
def areDigits (characters : List Char) : Bool :=
  !characters.isEmpty && characters.all fun character => (Text.decimalDigit? character).isSome

/-- A minus sign before digits, with at most one point that digits follow. -/
def isNegativeNumber : List Char → Bool
  | '-' :: rest =>
    let unsigned := if rest.getLast? = some '\n' then rest.dropLast else rest
    let (whole, places) := unsigned.span (· != '.')
    match places with
    | [] => areDigits whole
    | _ :: places => (whole.isEmpty || areDigits whole) && areDigits places
  | _ => false

/-- Splits an argument at the first equals sign. -/
def splitAttached (argument : List Nat) : List Nat × Option (List Nat) :=
  let (name, rest) := argument.span (· != '='.toNat)
  match rest with
  | [] => (name, none)
  | _ :: attached => (name, some attached)

/-- The options that an argument may abbreviate. After one dash, a name of one letter may be followed by more. -/
def Interface.abbreviated (accepted : Interface) (argument : List Nat) : List Use :=
  if argument.take 2 = Text.codes "--" then
    let (start, attached) := splitAttached argument
    accepted.named.filterMap fun (name, switch) =>
      if start.isPrefixOf (Text.codes name) then some ⟨switch, name, attached⟩ else none
  else
    accepted.named.filterMap fun (name, switch) =>
      if Text.codes name = argument.take 2 then some ⟨switch, name, some (argument.drop 2)⟩
      else if argument.isPrefixOf (Text.codes name) then some ⟨switch, name, none⟩
      else none

/-- What an argument before two dashes is. Surrogates are neither digits nor spaces. -/
def Interface.classify (accepted : Interface) (argument : List Nat) : Except UsageError Piece :=
  let characters := argument.map Char.ofNat
  if characters.head? != some '-' then .ok (.value argument)
  else match accepted.find? argument with
    | some (name, switch) => .ok (.use ⟨switch, name, none⟩)
    | none =>
      if characters.length = 1 then .ok (.value argument)
      else
        let (start, attached) := splitAttached argument
        match attached.bind fun _ => accepted.find? start with
        | some (name, switch) => .ok (.use ⟨switch, name, attached⟩)
        | none =>
          match accepted.abbreviated argument with
          | [use] => .ok (.use use)
          | [] =>
            .ok (if isNegativeNumber characters || characters.contains ' ' then .value argument else .unknown argument)
          | uses => .error (.ambiguous argument (uses.map Use.name))

/-- Tells all arguments apart. -/
def Interface.pieces (accepted : Interface) : List (List Nat) → Except UsageError (List Piece)
  | [] => .ok []
  | argument :: rest =>
    if argument = Text.codes "--" then .ok (.dashes :: rest.map Piece.value)
    else do return (← accepted.classify argument) :: (← accepted.pieces rest)

/-- One thing that arguments ask for. -/
inductive Request where
  | switch (switch : Switch) (argument : Option (List Nat))
  | values (arguments : List (List Nat))

/-- What arguments ask for, in their order, the arguments left over, and the failure that ends the reading. -/
structure Requests where
  requests : List Request
  leftOver : List (List Nat)
  failure : Option UsageError

namespace Requests

def empty : Requests := ⟨[], [], none⟩

def failed (failure : UsageError) : Requests := ⟨[], [], some failure⟩

def ask (first : List Request) (requests : Requests) : Requests :=
  { requests with requests := first ++ requests.requests }

def leave (arguments : List (List Nat)) (requests : Requests) : Requests :=
  { requests with leftOver := arguments ++ requests.leftOver }

end Requests

/-- The options that a cluster of letters after one dash stands for. -/
def Interface.cluster (accepted : Interface) (switch : Switch) :
    List Nat → Except UsageError (List Request × Option Use)
  | [] => .ok ([], some ⟨switch, "", none⟩)
  | letter :: more =>
    if switch.takesArgument then .ok ([], some ⟨switch, "", some (letter :: more)⟩)
    else match accepted.find? ['-'.toNat, letter] with
      | none => .error (.unusedArgument switch (letter :: more))
      | some (_, next) => do
        let (requests, last) ← accepted.cluster next more
        return (.switch switch none :: requests, last)

/-- The options that are in use by one argument, of which the last may need the following argument. -/
def Interface.expand (accepted : Interface) (use : Use) : Except UsageError (List Request × Option Use) :=
  match use.attached with
  | none => .ok ([], some use)
  | some attached =>
    if use.switch.takesArgument then .ok ([.switch use.switch (some attached)], none)
    else if use.name.startsWith "--" || attached.isEmpty then .error (.unusedArgument use.switch attached)
    else do
      let (requests, last) ← accepted.cluster use.switch attached
      match last with
      | some ⟨switch, _, some argument⟩ => return (requests ++ [.switch switch (some argument)], none)
      | last => return (requests, last)

/-- The arguments that are values or dashes. -/
def Piece.argument? : Piece → Option (List Nat)
  | .value argument => some argument
  | .dashes => some (Text.codes "--")
  | _ => none

/-- The argument that is a value. -/
def Piece.value? : Piece → Option (List Nat)
  | .value argument => some argument
  | _ => none

/-- Reads what arguments ask for. The first run of values is taken if values are wanted. -/
def Interface.requests (accepted : Interface) : Nat → Bool → List Piece → Requests
  | 0, _, _ => .empty
  | _, _, [] => .empty
  | fuel + 1, wanted, .unknown argument :: rest => (accepted.requests fuel wanted rest).leave [argument]
  | fuel + 1, wanted, .use use :: rest =>
    match accepted.expand use with
    | .error failure => .failed failure
    | .ok (first, none) => (accepted.requests fuel wanted rest).ask first
    | .ok (first, some last) =>
      if !last.switch.takesArgument then
        (accepted.requests fuel wanted rest).ask (first ++ [.switch last.switch none])
      else match rest with
        | .value argument :: rest =>
          (accepted.requests fuel wanted rest).ask (first ++ [.switch last.switch (some argument)])
        | _ => .failed (.missingArgument last.switch)
  | fuel + 1, wanted, pieces =>
    let (run, rest) := pieces.span fun piece => piece.argument?.isSome
    let values := run.filterMap Piece.value?
    if wanted && !values.isEmpty then (accepted.requests fuel false rest).ask [.values values]
    else (accepted.requests fuel wanted rest).leave (run.filterMap Piece.argument?)

/-- Reads what the arguments of a program ask for. -/
def Interface.read (accepted : Interface) (arguments : List (List Nat)) : Requests :=
  match accepted.pieces arguments with
  | .error failure => .failed failure
  | .ok pieces => accepted.requests (arguments.length + 1) accepted.takesValues pieces

end HalfPrecision.CommandLine
