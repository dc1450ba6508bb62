import Courier.Text.Decimal

/-!
# Options

The words after the name of a command are options with two dashes in front. An option takes a value,
which is the next word or stands behind an equals sign, or is a switch. A value that is a word of
its own does not start with a dash, unless it is nothing else. Of several faults the first counts,
and asking for help counts as one.
-/

namespace Courier.Command

/-! ## Values of options -/

/-- Reads a number of 64 bits. -/
def number? (value : String) : Option Nat :=
  Decimal.readUpTo? (UInt64.size - 1) value.toList

/-- Reads a number of 32 bits with an optional sign. -/
def integer? (value : String) : Option Int :=
  match value.toList with
  | '-' :: digits => ((Decimal.read? digits).filter (· ≤ 2147483648)).map fun n => -(n : Int)
  | cs => (Decimal.readUpTo? 2147483647 cs).map Int.ofNat

/-- What the value of an option has to be. -/
inductive ValueKind where
  | text
  /-- A file name, which is not empty. -/
  | file
  /-- A number of 64 bits. -/
  | number
  /-- A number of 32 bits that may be negative. -/
  | integer
deriving DecidableEq, Repr

/-- A value that an option of this kind can have. -/
def ValueKind.accepts (kind : ValueKind) (value : String) : Bool :=
  match kind with
  | .text => true
  | .file => value ≠ ""
  | .number => (number? value).isSome
  | .integer => (integer? value).isSome

/-- How an option is given. -/
inductive OptionKind where
  /-- Without a value, at most once. -/
  | switch
  /-- With a value, at most once. -/
  | single (value : ValueKind)
  /-- With a text as its value, any number of times. -/
  | repeated
deriving DecidableEq, Repr

/-- Why words on the command line are refused, or are not to be acted upon. -/
inductive UsageFault where
  /-- Help was asked for. -/
  | help
  | noCommand
  | unknownCommand (word : String)
  | unexpected (word : String)
  | missingValue (option : String)
  /-- A switch was given a value. -/
  | superfluousValue (option : String)
  | repeated (option : String)
  | missingOption (option : String)
  | invalidValue (option value : String)
deriving DecidableEq, Repr

/-- The exit status after a fault; asking for help is none. -/
def UsageFault.status : UsageFault → Nat
  | .help => 0
  | _ => 2

/-- Options as they were given, each with its value; the value of a switch is empty. -/
abbrev Given := List (String × String)

/-- Words that ask for help. After a single dash the first letter decides. -/
def asksForHelp (word : String) : Bool :=
  word == "--help" ||
    match word.toList with
    | '-' :: 'h' :: _ => true
    | _ => false

/-- A word that no option can have as its value unless an equals sign joins them. -/
def isDashed (word : String) : Bool :=
  match word.toList with
  | '-' :: _ :: _ => true
  | _ => false

/-- The name of an option in a word, and the value behind an equals sign. -/
def optionWord? (word : String) : Option (String × Option String) :=
  match word.toList with
  | '-' :: '-' :: body =>
    let name := String.ofList (body.takeWhile (· != '='))
    match body.dropWhile (· != '=') with
    | _ :: value => some (name, some (String.ofList value))
    | [] => some (name, none)
  | _ => none

/-- Adds an option, unless its value will not do, or it was given before and may not be given
again. -/
def add (given : Given) (kind : OptionKind) (name value : String) : Except UsageFault Given :=
  let fits := match kind with
    | .single v => v.accepts value
    | _ => true
  if kind ≠ .repeated && (given.lookup name).isSome then .error (.repeated name)
  else if fits then .ok (given ++ [(name, value)])
  else .error (.invalidValue name value)

/-- Reads options from left to right. Two dashes alone end them; no word may follow. -/
def readOptions (kinds : List (String × OptionKind)) (given : Given) :
    List String → Except UsageFault Given
  | [] => .ok given
  | ["--"] => .ok given
  | "--" :: word :: _ => .error (.unexpected word)
  | word :: rest =>
    if asksForHelp word then .error .help
    else
      match optionWord? word with
      | none => .error (.unexpected word)
      | some (name, value) =>
        match kinds.lookup name, value with
        | none, _ => .error (.unexpected word)
        | some .switch, some _ => .error (.superfluousValue name)
        | some .switch, none => do
          readOptions kinds (← add given .switch name "") rest
        | some kind, some value => do
          readOptions kinds (← add given kind name value) rest
        | some kind, none =>
          match rest with
          | value :: rest =>
            if isDashed value then .error (.missingValue name)
            else do readOptions kinds (← add given kind name value) rest
          | [] => .error (.missingValue name)

end Courier.Command
