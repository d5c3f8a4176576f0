import TimeSeries.Calendar.Reader
import TimeSeries.Formula.Context

set_option autoImplicit false

/-!
# Command lines

The arguments of the program: a command with its options. Options may stand anywhere behind the
command; a value follows its option, or is attached to it. Behind `--` nothing is an option.
-/
namespace TimeSeries.Command

/-- Where and how formulas are evaluated. -/
structure Settings where
  directory : String
  start : Option Date
  stop : Option Date
  frequency : Option Frequency
  fillMissing : Bool
  source : Option String

inductive Job where
  | eval (formula : String) (settings : Settings) (output : Option String) (provenance : Bool)
  | batch (file : String) (settings : Settings)
  | functions

inductive Invocation where
  | run (job : Job)
  | help
  | version
  | misuse

inductive Switch where
  | verbose
  | help
  | directory
  | start
  | stop
  | frequency
  | fillMissing
  | source
  | output
  | provenance
  | sequential
  deriving DecidableEq, Repr

namespace Switch

def longName : Switch → String
  | verbose => "verbose"
  | help => "help"
  | directory => "data-dir"
  | start => "start"
  | stop => "end"
  | frequency => "freq"
  | fillMissing => "nan"
  | source => "source"
  | output => "output"
  | provenance => "provenance"
  | sequential => "sequential"

def shortName? : Switch → Option Char
  | verbose => some 'v'
  | help => some 'h'
  | directory => some 'd'
  | source => some 's'
  | output => some 'o'
  | _ => none

def takesValue : Switch → Bool
  | directory | start | stop | frequency | source | output => true
  | verbose | help | fillMissing | provenance | sequential => false

/-- The options that belong to every command that evaluates formulas. -/
def evaluating : List Switch :=
  [verbose, help, directory, start, stop, frequency, fillMissing, source]

end Switch

inductive CommandName where
  | eval
  | batch
  | functions

namespace CommandName

def ofText? : String → Option CommandName
  | "eval" => some eval
  | "batch" => some batch
  | "functions" => some functions
  | _ => none

def switches : CommandName → List Switch
  | eval => Switch.evaluating ++ [.output, .provenance]
  | batch => Switch.evaluating ++ [.sequential]
  | functions => [.verbose, .help]

end CommandName

/-- What was collected from the arguments: options in order and the arguments that are none. -/
structure Collected where
  switches : List (Switch × Option String)
  operands : List String
  helpWanted : Bool

namespace Collected

def addSwitch (switch : Switch) (value : Option String) (collected : Collected) : Collected :=
  { collected with switches := (switch, value) :: collected.switches }

def addOperand (operand : String) (collected : Collected) : Collected :=
  { collected with operands := operand :: collected.operands }

def count (collected : Collected) (switch : Switch) : Nat :=
  collected.switches.countP (·.1 == switch)

def has (collected : Collected) (switch : Switch) : Bool := 0 < collected.count switch

def value? (collected : Collected) (switch : Switch) : Option String :=
  (collected.switches.lookup switch).join

end Collected

def noArguments : Collected := ⟨[], [], false⟩

/-- A request for help; what follows it does not matter. -/
def wantsHelp : Collected := ⟨[], [], true⟩

/-- Whether an argument has the form of an option, so that it is no value of the one before. -/
def looksLikeSwitch (argument : String) : Bool :=
  argument.toList.head? == some '-' && 1 < argument.length

/-- The options of a cluster of letters behind one hyphen, up to a request for help. The last one
may take its value from the rest of the cluster, with or without an equals sign, or from the next
argument: then it is given back as pending. -/
def readCluster (allowed : List Switch) :
    List Char → Option (List (Switch × Option String) × Option Switch)
  | [] => some ([], none)
  | c :: rest => do
    let switch ← allowed.find? (·.shortName? == some c)
    if switch == .help then return ([(switch, none)], none)
    if switch.takesValue then
      match rest with
      | [] => return ([], some switch)
      | '=' :: value => return ([(switch, some (String.ofList value))], none)
      | _ => return ([(switch, some (String.ofList rest))], none)
    else
      let (switches, pending) ← readCluster allowed rest
      return ((switch, none) :: switches, pending)

/-- The option with a long name, and the value that is attached to it. -/
def readLong (allowed : List Switch) (text : List Char) : Option (Switch × Option String) := do
  let name := String.ofList (text.takeWhile (· != '='))
  let attached := match text.dropWhile (· != '=') with
    | _ :: value => some (String.ofList value)
    | [] => none
  let switch ← allowed.find? (·.longName == name)
  if attached.isSome && !switch.takesValue then none else some (switch, attached)

/-- Collects the arguments behind a command; `none` when they are at fault. -/
def collect (allowed : List Switch) (pending : Option Switch) : List String → Option Collected
  | [] => if pending.isSome then none else some noArguments
  | argument :: rest =>
    match pending with
    | some switch =>
      if looksLikeSwitch argument then none
      else (collect allowed none rest).map (·.addSwitch switch (some argument))
    | none =>
      match argument.toList with
      | ['-', '-'] => some (rest.foldr Collected.addOperand noArguments)
      | '-' :: '-' :: text => do
        let (switch, attached) ← readLong allowed text
        if switch == .help then return wantsHelp
        if switch.takesValue && attached.isNone then collect allowed (some switch) rest
        else (collect allowed none rest).map (·.addSwitch switch attached)
      | '-' :: c :: letters => do
        let (switches, pending) ← readCluster allowed (c :: letters)
        if switches.any (·.1 == .help) then return wantsHelp
        let others ← collect allowed pending rest
        return { others with switches := switches ++ others.switches }
      | _ => (collect allowed none rest).map (·.addOperand argument)

def Collected.read? {α : Type} (collected : Collected) (switch : Switch)
    (read : String → Option α) : Option (Option α) :=
  match collected.value? switch with
  | none => some none
  | some text => (read text).map some

def readPath (text : String) : Option String := if text = "" then none else some text

/-- A date with hyphens between its parts, and maybe blanks. -/
def readDay (text : String) : Option Date := (Pattern.loose.read text.toList).toOption

def Collected.settings? (collected : Collected) : Option Settings := do
  let directory ← collected.read? .directory readPath
  let start ← collected.read? .start readDay
  let stop ← collected.read? .stop readDay
  let frequency ← collected.read? .frequency Frequency.ofText?
  return ⟨directory.getD ".", start, stop, frequency, collected.has .fillMissing,
    collected.value? .source⟩

/-- Whether no option is repeated; only verbosity may be. -/
def Collected.isUnambiguous (collected : Collected) : Bool :=
  collected.switches.all fun (switch, _) => switch == .verbose || collected.count switch ≤ 1

def Collected.operand? (collected : Collected) (read : String → Option String) :
    Option (Option String) :=
  match collected.operands with
  | [] => some none
  | [text] => (read text).map some
  | _ => none

/-- The job that collected arguments make, when they are all in order; inside there is none
where the operand is missing. -/
def Collected.job? (collected : Collected) : CommandName → Option (Option Job)
  | .eval => do
    let settings ← collected.settings?
    let output ← collected.read? .output readPath
    let formula? ← collected.operand? some
    return formula?.map fun formula => .eval formula settings output (collected.has .provenance)
  | .batch => do
    let settings ← collected.settings?
    let file? ← collected.operand? readPath
    return file?.map fun file => .batch file settings
  | .functions => if collected.operands.isEmpty then some (some .functions) else none

/-- The invocation of a command with the arguments behind it. A fault in front of a request for help
counts, and a missing operand does not. -/
def invocationOf (name : CommandName) (arguments : List String) : Invocation :=
  match collect name.switches none arguments with
  | none => .misuse
  | some collected =>
    if !collected.isUnambiguous then .misuse
    else
      match collected.job? name, collected.helpWanted with
      | none, _ => .misuse
      | some _, true => .help
      | some (some job), false => .run job
      | some none, false => .misuse

def helpAbout : List String → Invocation
  | [] => .help
  | [name] => if name = "help" ∨ (CommandName.ofText? name).isSome then .help else .misuse
  | _ => .misuse

/-- Reads a command line. In front of the command only a few options may stand. -/
def readArguments : List String → Invocation
  | [] => .misuse
  | argument :: rest =>
    match CommandName.ofText? argument with
    | some name => invocationOf name rest
    | none =>
      if argument = "--verbose" then readArguments rest
      else if argument = "help" then helpAbout rest
      else if argument = "--help" then .help
      else if argument = "--version" then .version
      else
        match argument.toList with
        | '-' :: c :: letters =>
          match (c :: letters).find? (· ≠ 'v') with
          | none => readArguments rest
          | some 'h' => .help
          | some 'V' => .version
          | some _ => .misuse
        | _ => .misuse

end TimeSeries.Command
