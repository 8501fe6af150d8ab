import PhaseSplit.Text.DecimalDigit
import PhaseSplit.Text.Quoted

/-!
# Options on a command line

A command line is read against a table of options and a rule for the arguments that are none.  A
long option may be cut short as long as one option fits; its value may follow after an equals sign.
Short options may stand together behind one dash, and the last of them may have its value attached.
After two dashes nothing is an option.

* `OptionTable.shapeOf` — how one argument looks to a table;
* `OptionTable.scan` — the options and operands in a list of arguments, in order;
* `OptionTable.parse` — a value built up from the options and operands one by one;
* `ArgumentFault` — why a command line is refused.
-/

namespace PhaseSplit

/-! ## Tables -/

/-- An option: what it is called by the program, its names on the command line, and whether it
takes a value. -/
structure OptionSpec (κ : Type) where
  key : κ
  names : List Text
  takesValue : Bool

/-- The options of a command. -/
abbrev OptionTable (κ : Type) := List (OptionSpec κ)

/-- The name of an option in messages. -/
def OptionSpec.title {κ : Type} (s : OptionSpec κ) : Text := Text.join (Text.lit "/") s.names

/-- What a command takes besides options: nothing, one or more operands, or a word with everything
after it. -/
inductive OperandRule
  | none
  | atLeastOne
  | word
  deriving DecidableEq

/-! ## Faults -/

/-- Why the value of an option is refused. -/
inductive ValueFault
  | notInteger (value : Text)
  | warmupNotPositive (value : Text)
  | precisionNegative (value : Text)
  | fileMissing (path : Text)
  | fileNotRegular (path : Text)
  | notAmong (value : Text) (choices : List Text)
  deriving DecidableEq

/-- The words for a refused value. -/
def ValueFault.message : ValueFault → Text
  | .notInteger value => Text.lit "Not an integer: " ++ value
  | .warmupNotPositive value => Text.lit "Warmup time should be a positive number: " ++ value
  | .precisionNegative value => Text.lit "Precision should not be negative: " ++ value
  | .fileMissing path => Text.lit "JTL file does not exist: " ++ path
  | .fileNotRegular path => Text.lit "JTL file is not a regular file: " ++ path
  | .notAmong value choices =>
    Text.lit "invalid choice: " ++ value.quoted ++ Text.lit " (choose from "
      ++ Text.join (Text.lit ", ") (choices.map Text.quoted) ++ Text.lit ")"

/-- Why a command line is refused. -/
inductive ArgumentFault
  | ambiguous (argument : Text) (candidates : List Text)
  | valueMissing (option : Text)
  | valueUnused (option value : Text)
  | refusedValue (option : Text) (e : ValueFault)
  | required (options : List Text)
  | unrecognized (arguments : List Text)
  deriving DecidableEq

/-- The words for a refused command line. -/
def ArgumentFault.message : ArgumentFault → Text
  | .ambiguous argument candidates =>
    Text.lit "ambiguous option: " ++ argument ++ Text.lit " could match "
      ++ Text.join (Text.lit ", ") candidates
  | .valueMissing option => Text.lit "argument " ++ option ++ Text.lit ": expected one argument"
  | .valueUnused option value =>
    Text.lit "argument " ++ option ++ Text.lit ": ignored explicit argument " ++ value.quoted
  | .refusedValue option e => Text.lit "argument " ++ option ++ Text.lit ": " ++ e.message
  | .required options =>
    Text.lit "the following arguments are required: " ++ Text.join (Text.lit ", ") options
  | .unrecognized arguments =>
    Text.lit "unrecognized arguments: " ++ Text.join (Text.lit " ") arguments

/-! ## Shapes of arguments -/

/-- How an argument looks: an operand, the two dashes that end the options, an option, perhaps with
a value attached, or something like an option that is in no table. -/
inductive ArgumentShape (κ : Type)
  | operand
  | dashes
  | option (spec : OptionSpec κ) (isShort : Bool) (attached : Option Text)
  | unknown

/-- Whether an argument cannot be an option. -/
def ArgumentShape.isOperand {κ : Type} : ArgumentShape κ → Bool
  | operand => true
  | _ => false

/-- Whether an argument is an operand or the two dashes. -/
def ArgumentShape.isOutsideOptions {κ : Type} : ArgumentShape κ → Bool
  | operand | dashes => true
  | _ => false

/-- The dash that starts an option. -/
def dash : Glyph := .char '-'

/-- The two dashes that end the options. -/
def twoDashes : Text := [dash, dash]

/-- Whether a name or an argument has one dash only. -/
def hasOneDash (name : Text) : Bool := (name.drop 1).head? ≠ some dash

/-- The part of an argument before its first equals sign, and the part after it. -/
def cutAtEquals (argument : Text) : Text × Option Text :=
  let name := argument.takeWhile (· ≠ .char '=')
  match argument.drop name.length with
  | [] => (name, none)
  | _ :: value => (name, some value)

/-- Whether a glyph is a digit of any decimal system. -/
def isDecimalDigit (g : Glyph) : Bool := g.decimalDigit?.isSome

/-- Whether an argument is a dash and a number, with a point or without; a line feed may follow. -/
def looksNegative (argument : Text) : Bool :=
  let body := argument.drop 1
  let body := if body.getLast? = some (.char '\n') then body.dropLast else body
  let fraction := body.dropWhile isDecimalDigit
  match fraction with
  | [] => !body.isEmpty
  | g :: digits => g == .char '.' && !digits.isEmpty && digits.all isDecimalDigit

namespace OptionTable

variable {κ : Type}

/-- The option of this name. -/
def named? (table : OptionTable κ) (name : Text) : Option (OptionSpec κ) :=
  table.find? (·.names.contains name)

/-- The names of all options, each with its option. -/
def names (table : OptionTable κ) : List (Text × OptionSpec κ) :=
  table.flatMap fun spec => spec.names.map fun name => (name, spec)

/-- The readings of an argument as an option that is not written out: a long name cut short, or a
short name with its value attached. -/
def candidates (table : OptionTable κ) (argument : Text) :
    List (Text × OptionSpec κ × Option Text) :=
  if hasOneDash argument then
    table.names.filterMap fun (name, spec) =>
      if name = argument.take 2 then some (name, spec, some (argument.drop 2))
      else if argument.isPrefixOf name then some (name, spec, none)
      else none
  else
    let (start, value) := cutAtEquals argument
    table.names.filterMap fun (name, spec) =>
      if start.isPrefixOf name then some (name, spec, value) else none

/-- The shape of an argument that is no written-out option. -/
def shapeOfOther (table : OptionTable κ) (argument : Text) :
    Except ArgumentFault (ArgumentShape κ) :=
  match table.candidates argument with
  | [] =>
    .ok (if looksNegative argument || argument.contains (.char ' ') then .operand else .unknown)
  | [(name, spec, attached)] => .ok (.option spec (hasOneDash name) attached)
  | several => .error (.ambiguous argument (several.map (·.1)))

/-- The shape of an argument before the two dashes. -/
def shapeOf (table : OptionTable κ) (argument : Text) : Except ArgumentFault (ArgumentShape κ) :=
  if argument.head? ≠ some dash then .ok .operand
  else
    match table.named? argument with
    | some spec => .ok (.option spec (hasOneDash argument) none)
    | none =>
      if argument.length = 1 then .ok .operand
      else
        match cutAtEquals argument with
        | (name, some value) =>
          match table.named? name with
          | some spec => .ok (.option spec (hasOneDash name) (some value))
          | none => table.shapeOfOther argument
        | (_, none) => table.shapeOfOther argument

/-- An argument with its shape. -/
abbrev Item (κ : Type) := Text × ArgumentShape κ

/-- The arguments with their shapes. -/
def items (table : OptionTable κ) : List Text → Except ArgumentFault (List (Item κ))
  | [] => .ok []
  | argument :: arguments =>
    if argument = twoDashes then
      .ok ((argument, .dashes) :: arguments.map fun a => (a, .operand))
    else
      match table.shapeOf argument with
      | .error e => .error e
      | .ok shape => (items table arguments).map ((argument, shape) :: ·)

/-! ## Scanning -/

/-- What a command line says at one place. -/
inductive Occurrence (κ : Type)
  | flag (spec : OptionSpec κ)
  | value (spec : OptionSpec κ) (value : Text)
  | operands (arguments : List Text)

/-- The options in one argument: `spec`, and what its attached text says.  Without a value to take,
short options make the text the letters of further ones; the last of them, if it has no text of its
own, may take its value from the next argument. -/
def cluster (table : OptionTable κ) (spec : OptionSpec κ) (isShort : Bool) (t : Text) :
    Except ArgumentFault (List (Occurrence κ) × Option (OptionSpec κ)) :=
  if spec.takesValue then .ok ([.value spec t], none)
  else
    match t with
    | [] => .error (.valueUnused spec.title [])
    | g :: rest =>
      match if isShort then table.named? [dash, g] else none with
      | none => .error (.valueUnused spec.title (g :: rest))
      | some next =>
        if rest = [] then .ok ([.flag spec], some next)
        else
          (cluster table next true rest).map fun (occurrences, last) =>
            (.flag spec :: occurrences, last)
termination_by t.length

/-- What has been read of a command line: options and operands, arguments that are neither, and
where reading stopped early the reason. -/
structure Scan (κ : Type) where
  occurrences : List (Occurrence κ)
  extras : List Text
  fault : Option ArgumentFault

/-- A scan with more options and operands before it. -/
def Scan.after (occurrences : List (Occurrence κ)) (s : Scan κ) : Scan κ :=
  { s with occurrences := occurrences ++ s.occurrences }

/-- A scan with an argument before it that is neither option nor operand. -/
def Scan.afterExtra (argument : Text) (s : Scan κ) : Scan κ :=
  { s with extras := argument :: s.extras }

/-- A scan that stops here. -/
def Scan.stopped (e : ArgumentFault) : Scan κ := ⟨[], [], some e⟩

/-- Whether operands may start with an argument of this shape that others follow. -/
def startsOperands (shape : ArgumentShape κ) (rest : List (Item κ)) : Bool :=
  shape.isOperand || rest.head?.any (·.2.isOperand)

/-- The options and operands in a list of arguments. -/
def scan (table : OptionTable κ) (rule : OperandRule) : List (Item κ) → Scan κ
  | [] => ⟨[], [], none⟩
  | (argument, shape) :: rest =>
    let useOption (before : List (Occurrence κ)) (spec : OptionSpec κ) : Scan κ :=
      if spec.takesValue then
        match rest with
        | (value, .operand) :: rest => (scan table rule rest).after (before ++ [.value spec value])
        | _ => .stopped (.valueMissing spec.title)
      else (scan table rule rest).after (before ++ [.flag spec])
    match shape with
    | .unknown => (scan table rule rest).afterExtra argument
    | .option spec _ none => useOption [] spec
    | .option spec isShort (some attached) =>
      match table.cluster spec isShort attached with
      | .error e => .stopped e
      | .ok (occurrences, none) => (scan table rule rest).after occurrences
      | .ok (occurrences, some next) => useOption occurrences next
    | _ =>
      if startsOperands shape rest then
        match rule with
        | .none => (scan table rule rest).afterExtra argument
        | .word => ⟨[.operands (argument :: rest.map (·.1))], [], none⟩
        | .atLeastOne =>
          let run := argument :: (rest.takeWhile (·.2.isOutsideOptions)).map (·.1)
          (scan table .none (rest.dropWhile (·.2.isOutsideOptions))).after
            [.operands (run.erase twoDashes)]
      else (scan table rule rest).afterExtra argument
termination_by items => items.length
decreasing_by
  all_goals simp only [List.length_cons]
  all_goals try omega
  have := (List.dropWhile_sublist (·.2.isOutsideOptions) (l := rest)).length_le
  omega

/-! ## Parsing -/

/-- The value built up from the options and operands in a list of arguments one by one, and the
arguments that are neither. -/
def parse {α ε : Type} (table : OptionTable κ) (rule : OperandRule) (refuse : ArgumentFault → ε)
    (take : α → Occurrence κ → Except ε α) (start : α) (arguments : List Text) :
    Except ε (α × List Text) := do
  let items ← (table.items arguments).mapError refuse
  let s := table.scan rule items
  let value ← s.occurrences.foldlM take start
  match s.fault with
  | some e => throw (refuse e)
  | none => return (value, s.extras)

end OptionTable

end PhaseSplit
