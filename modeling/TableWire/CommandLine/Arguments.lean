import TableWire.Emit.Target

/-!
The command line: one of two commands with their options, or a request for the version. The value
of an option stands in the next argument, or is attached to the option.
-/
namespace TableWire.CommandLine
open Emit (Options Target)

inductive Command where
  | version
  | generate (options : Options) (input? output? : Option String)
  | layout (input? : Option String)
deriving DecidableEq, Repr

/-- An option with a value. -/
structure OptionName where
  short? : Option Char
  long : String
deriving DecidableEq, Repr

def targetOption : OptionName := ⟨some 't', "target"⟩

def inputOption : OptionName := ⟨some 'i', "input"⟩

def outputOption : OptionName := ⟨some 'o', "output"⟩

def runtimePathOption : OptionName := ⟨none, "runtime-path"⟩

/-- Whether an argument is an option or the mark that ends options; a lone dash is neither. -/
def isOption (arg : String) : Bool :=
  match arg.toList with
  | '-' :: _ :: _ => true
  | _ => false

/-- What an argument says at the start of an option. -/
inductive OptionStart where
  | attached (name : OptionName) (value : String)
  | open (name : OptionName)
deriving DecidableEq, Repr

/-- Reads an option: `--long`, `--long=value`, `-s`, `-svalue` or `-s=value`. -/
def optionStart? (known : List OptionName) (arg : String) : Option OptionStart :=
  match arg.toList with
  | '-' :: '-' :: cs =>
    let name := cs.takeWhile (· != '=')
    (known.find? (·.long.toList == name)).map fun option =>
      match cs.dropWhile (· != '=') with
      | [] => .open option
      | _ :: value => .attached option (String.ofList value)
  | '-' :: c :: cs =>
    (known.find? (·.short? == some c)).map fun option =>
      match cs with
      | [] => .open option
      | '=' :: value => .attached option (String.ofList value)
      | value => .attached option (String.ofList value)
  | _ => none

/-- Reads options up to the end; each may be given once, and nothing else is accepted. -/
def readOptions (known : List OptionName) (given : List (OptionName × String)) :
    List String → Option (List (OptionName × String))
  | [] => some given
  | arg :: args =>
    if arg = "--" then if args.isEmpty then some given else none
    else
      match optionStart? known arg, args with
      | some (.attached name value), args =>
        if (given.lookup name).isSome then none
        else readOptions known ((name, value) :: given) args
      | some (.open name), value :: args =>
        if (given.lookup name).isSome || isOption value then none
        else readOptions known ((name, value) :: given) args
      | _, _ => none

/-- A path that was given must not be empty. -/
def path? (given : List (OptionName × String)) (name : OptionName) : Option (Option String) :=
  match given.lookup name with
  | none => some none
  | some path => if path.isEmpty then none else some (some path)

/-- The target that was given, or the usual one. -/
def target? (given : List (OptionName × String)) : Option Target :=
  match given.lookup targetOption with
  | none => some .rust
  | some name => Target.ofName? name

def generate? (args : List String) : Option Command := do
  let given ← readOptions [targetOption, inputOption, outputOption, runtimePathOption] [] args
  let target ← target? given
  let input? ← path? given inputOption
  let output? ← path? given outputOption
  return .generate ⟨target, given.lookup runtimePathOption⟩ input? output?

def layout? (args : List String) : Option Command := do
  let given ← readOptions [inputOption] [] args
  let input? ← path? given inputOption
  return .layout input?

/-- The command that the arguments ask for; none if they are no command line. -/
def command? : List String → Option Command
  | [] => none
  | arg :: args =>
    if arg = "gen" then generate? args
    else if arg = "layout" then layout? args
    else if arg = "--version" then some .version
    else
      match arg.toList with
      | '-' :: 'v' :: _ | '-' :: 'V' :: _ => some .version
      | _ => none

end TableWire.CommandLine
