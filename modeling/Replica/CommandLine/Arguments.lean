/-
The arguments of the command line.

Options may stand before or after the command. An option that takes a value
takes it from the same argument (`--limit=3`, `-l3`, `-l=3`) or from the next
one, which must not look like an option. Short options may share an argument,
the last of them taking the rest as its value. An option is given at most once
before the command and once after it, and what stands after it wins. Behind two
dashes nothing is an option, and since no command takes plain arguments nothing
may follow.
-/
namespace Replica.CommandLine

/-- What is to be done. -/
inductive Command
  | inspect
  | verify
  | dumpQueue
  | dumpHistory
  | version
  deriving DecidableEq, Repr, Inhabited

namespace Command

/-- Every command. -/
def all : List Command := [inspect, verify, dumpQueue, dumpHistory, version]

/-- The name of the command. -/
def name : Command → String
  | inspect => "inspect"
  | verify => "verify"
  | dumpQueue => "dump-queue"
  | dumpHistory => "dump-history"
  | version => "version"

/-- The command with this name. -/
def ofName? (s : String) : Option Command := all.find? (·.name = s)

end Command

/-- An option. -/
inductive Opt
  | path
  | verbose
  | format
  | limit
  | help
  | version
  deriving DecidableEq, Repr, Inhabited

namespace Opt

/-- The long name of the option. -/
def long : Opt → String
  | path => "path"
  | verbose => "verbose"
  | format => "format"
  | limit => "limit"
  | help => "help"
  | version => "version"

/-- The short name of the option. -/
def short : Opt → Char
  | path => 'p'
  | verbose => 'v'
  | format => 'f'
  | limit => 'l'
  | help => 'h'
  | version => 'V'

/-- Whether the option takes a value. -/
def takesValue : Opt → Bool
  | path | format | limit => true
  | verbose | help | version => false

end Opt

/-- The options that may stand before the command, or after it. -/
def allowed : Option Command → List Opt
  | none => [.path, .verbose, .help, .version]
  | some .inspect => [.path, .verbose, .help, .format]
  | some .dumpQueue | some .dumpHistory => [.path, .verbose, .help, .limit, .format]
  | some .verify | some .version => [.path, .verbose, .help]

/-- The values of the options on one side of the command. -/
structure Values where
  path : Option String := none
  verbose : Bool := false
  format : Option String := none
  limit : Option Nat := none
  deriving DecidableEq, Repr, Inhabited

/-- A command with its options. -/
structure Invocation where
  command : Command
  path : Option String
  format : String
  limit : Option Nat
  deriving DecidableEq, Repr, Inhabited

/-- Why there is nothing to run. -/
inductive Refusal
  | usage
  | help
  | version
  deriving DecidableEq, Repr, Inhabited

/-- The greatest number a limit can be. -/
def maxLimit : Nat := 18446744073709551615

/-- A number in decimal digits, with a plus sign or without. -/
def readLimit? (s : String) : Option Nat :=
  let digits := match s.toList with
    | '+' :: rest => rest
    | cs => cs
  if digits = [] || !digits.all (fun c => '0' ≤ c && c ≤ '9') then none
  else
    let n := digits.foldl (fun n c => 10 * n + (c.toNat - 48)) 0
    if n ≤ maxLimit then some n else none

/-- Gives an option its value. An option given twice and a value of the wrong form are refused. -/
def setValue (values : Values) (opt : Opt) (value : String) : Except Refusal Values :=
  match opt with
  | .path =>
    if values.path.isSome || value.isEmpty then .error .usage
    else .ok { values with path := some value }
  | .format =>
    if values.format.isSome then .error .usage else .ok { values with format := some value }
  | .limit =>
    match values.limit, readLimit? value with
    | none, some n => .ok { values with limit := some n }
    | _, _ => .error .usage
  | _ => .error .usage

/-- Sets an option that takes no value. -/
def setFlag (values : Values) (opt : Opt) : Except Refusal Values :=
  match opt with
  | .verbose => if values.verbose then .error .usage else .ok { values with verbose := true }
  | .help => .error .help
  | .version => .error .version
  | _ => .error .usage

/-- The options an argument holds, the last perhaps with a value; or that its value comes next. -/
inductive Reading
  | done (values : Values)
  /-- The next argument is the value of this option. -/
  | awaiting (values : Values) (opt : Opt)
  deriving Repr, Inhabited

/-- Reads an argument `--name` or `--name=value`, without its dashes. -/
def readLong (opts : List Opt) (values : Values) (text : List Char) : Except Refusal Reading :=
  let name := String.ofList (text.takeWhile (· ≠ '='))
  let value := match text.dropWhile (· ≠ '=') with
    | _ :: rest => some (String.ofList rest)
    | [] => none
  match opts.find? (·.long = name) with
  | none => .error .usage
  | some opt =>
    if opt.takesValue then
      match value with
      | some value => Reading.done <$> setValue values opt value
      | none => .ok (.awaiting values opt)
    else match value with
      | some _ => .error .usage
      | none => Reading.done <$> setFlag values opt

/-- Reads the letters of an argument of short options. -/
def readShort (opts : List Opt) (values : Values) : List Char → Except Refusal Reading
  | [] => .ok (.done values)
  | c :: rest =>
    match opts.find? (·.short = c) with
    | none => .error .usage
    | some opt =>
      if opt.takesValue then
        match rest with
        | [] => .ok (.awaiting values opt)
        | '=' :: value => Reading.done <$> setValue values opt (String.ofList value)
        | value => Reading.done <$> setValue values opt (String.ofList value)
      else match setFlag values opt with
        | .error refusal => .error refusal
        | .ok values => readShort opts values rest

/-- Whether an argument can only be an option: it starts with a dash and is longer. -/
def looksLikeOption (arg : String) : Bool :=
  match arg.toList with
  | '-' :: _ :: _ => true
  | _ => false

/-- Reads the options of an argument that looks like one. -/
def readOption (opts : List Opt) (values : Values) (arg : String) : Except Refusal Reading :=
  match arg.toList with
  | '-' :: '-' :: text => readLong opts values text
  | '-' :: text => readShort opts values text
  | _ => .error .usage

/-- What an invocation is made of: the options before the command, the command and the options
after it. -/
def Invocation.make (before : Values) (command : Command) (after : Values) : Invocation where
  command := command
  path := after.path.or before.path
  format := after.format.getD "text"
  limit := after.limit

/-- Where the reading of arguments stands. -/
structure Cursor where
  /-- The command and the options before it, once it has been read. -/
  command : Option (Command × Values) := none
  /-- The options on this side of the command. -/
  values : Values := {}
  /-- The option whose value comes next. -/
  awaited : Option Opt := none
  deriving Repr, Inhabited

/-- What comes of asking for help on these commands. -/
def helpOn : List String → Refusal
  | [] => .help
  | [name] => if name = "help" || (Command.ofName? name).isSome then .help else .usage
  | _ => .usage

/-- Reads arguments from a cursor on. -/
def readFrom : Cursor → List String → Except Refusal Invocation
  | cursor, [] =>
    match cursor.awaited, cursor.command with
    | none, some (command, before) => .ok (.make before command cursor.values)
    | _, _ => .error .usage
  | cursor, arg :: rest =>
    match cursor.awaited with
    | some opt =>
      if looksLikeOption arg then .error .usage
      else match setValue cursor.values opt arg with
        | .error refusal => .error refusal
        | .ok values => readFrom { cursor with values, awaited := none } rest
    | none =>
      match cursor.command, Command.ofName? arg with
      | none, some command => readFrom { command := some (command, cursor.values) } rest
      | _, _ =>
        if arg = "help" && cursor.command.isNone then .error (helpOn rest)
        else if arg = "--" then
          match rest, cursor.command with
          | [], some (command, before) => .ok (.make before command cursor.values)
          | _, _ => .error .usage
        else if looksLikeOption arg then
          match readOption (allowed (cursor.command.map (·.1))) cursor.values arg with
          | .error refusal => .error refusal
          | .ok (.done values) => readFrom { cursor with values } rest
          | .ok (.awaiting values opt) => readFrom { cursor with values, awaited := some opt } rest
        else .error .usage

/-- Reads the arguments of the command line. -/
def read (args : List String) : Except Refusal Invocation := readFrom {} args

end Replica.CommandLine
