import TidyCsv.Settings

/-!
# The command line

Arguments are read from left to right. An option may have its value in the same argument or in the
next one; in the latter case the value is looked at when the option is settled, which happens before
the next flag, option or input takes effect, or at the end.
-/

namespace TidyCsv.CommandLine

/-- Why arguments are not carried out. Help and version count as reasons too. -/
inductive Stop where
  | unknownArgument
  | missingInput
  | missingValue
  | badValue
  | repeated
  | unexpectedValue
  | help
  | version
deriving DecidableEq, Repr

/-- Whether arguments are asked for help or the version rather than being wrong. -/
def Stop.isRequest : Stop → Bool
  | help => true
  | version => true
  | _ => false

inductive Flag where
  | force
  | keepNames
  | strict
  | check
  | stdout
  | verbose
  | help
  | version
deriving DecidableEq, Repr

inductive Setting where
  | output
  | delimiter
  | skipRows
  | httpTimeout
  /-- Its value is optional and has to stand in the same argument. -/
  | fixMojibake
deriving DecidableEq, Repr

/-- What a name on the command line stands for. -/
inductive Switch where
  | flag (flag : Flag)
  | setting (setting : Setting)
deriving DecidableEq, Repr

def longSwitch? (name : String) : Option Switch :=
  [("output", .setting .output), ("force", .flag .force), ("keep-names", .flag .keepNames),
    ("delimiter", .setting .delimiter), ("strict", .flag .strict), ("check", .flag .check),
    ("stdout", .flag .stdout), ("fix-mojibake", .setting .fixMojibake),
    ("skip-rows", .setting .skipRows), ("http-timeout", .setting .httpTimeout),
    ("verbose", .flag .verbose), ("help", .flag .help), ("version", .flag .version)].lookup name

def shortSwitch? (letter : Char) : Option Switch :=
  [('o', .setting .output), ('f', .flag .force), ('n', .flag .keepNames),
    ('d', .setting .delimiter), ('v', .flag .verbose), ('h', .flag .help),
    ('V', .flag .version)].lookup letter

/-- The sample size that repair has if none is given. -/
def defaultSample : Nat := 5000

/-- The timeout for remote inputs, in seconds, if none is given. -/
def defaultTimeout : Nat := 30

/-- What has been given so far. -/
structure Given where
  input : Option String := none
  flags : List Flag := []
  output : Option String := none
  delimiter : Option String := none
  skipRows : Option Nat := none
  httpTimeout : Option Nat := none
  sample : Option Nat := none
deriving DecidableEq, Repr

/-- The state of reading: what has been given, the option that is not settled yet with its value, if
that is known, and whether only inputs may follow. -/
structure Reading where
  given : Given := {}
  pending : Option (Setting × Option String) := none
  inputsOnly : Bool := false
deriving DecidableEq, Repr

/-- The number of 64 bits that a text stands for; a plus sign may stand before it. -/
def number? (text : String) : Option Nat :=
  let digits := match text.toList with
    | '+' :: rest => rest
    | chars => chars
  if !digits.isEmpty && digits.all Char.isDigit then
    let n := digits.foldl (fun n c => n * 10 + (c.toNat - '0'.toNat)) 0
    if n < Nat.pow 2 64 then some n else none
  else none

def readNumber (text : String) : Except Stop Nat :=
  match number? text with
  | some n => .ok n
  | none => .error .badValue

def settle (given : Given) (setting : Setting) (value : String) : Except Stop Given :=
  match setting with
  | .output =>
    if given.output.isSome then .error .repeated
    else if value = "" then .error .missingValue
    else .ok { given with output := some value }
  | .delimiter =>
    if given.delimiter.isSome then .error .repeated
    else .ok { given with delimiter := some value }
  | .skipRows =>
    if given.skipRows.isSome then .error .repeated
    else (readNumber value).map fun n => { given with skipRows := some n }
  | .httpTimeout =>
    if given.httpTimeout.isSome then .error .repeated
    else (readNumber value).map fun n => { given with httpTimeout := some n }
  | .fixMojibake =>
    if given.sample.isSome then .error .repeated
    else (readNumber value).map fun n => { given with sample := some n }

/-- Settles the option that is not settled yet. -/
def Reading.settlePending (r : Reading) : Except Stop Reading :=
  match r.pending with
  | none => .ok r
  | some (_, none) => .error .missingValue
  | some (setting, some value) =>
    (settle r.given setting value).map fun given => { r with given := given, pending := none }

def Reading.takeFlag (r : Reading) (flag : Flag) : Except Stop Reading := do
  let r ← r.settlePending
  match flag with
  | .help => throw .help
  | .version => throw .version
  | _ =>
    if r.given.flags.contains flag then throw .repeated
    else pure { r with given := { r.given with flags := flag :: r.given.flags } }

/-- Takes an option with a value in the same argument. -/
def Reading.takeAttached (r : Reading) (setting : Setting) (value : String) :
    Except Stop Reading := do
  let r ← r.settlePending
  let given ← settle r.given setting value
  pure { r with given := given }

/-- Takes an option without a value in the same argument. -/
def Reading.takeDetached (r : Reading) (setting : Setting) : Except Stop Reading :=
  if setting = .fixMojibake then r.takeAttached setting (toString defaultSample)
  else do
    let r ← r.settlePending
    pure { r with pending := some (setting, none) }

/-- Takes an input, of which there is only one. -/
def Reading.takeInput (r : Reading) (input : String) : Except Stop Reading :=
  if r.given.input.isSome then .error .unknownArgument
  else do
    let r ← r.settlePending
    pure { r with given := { r.given with input := some input } }

/-- Takes a long name, with the value after an equals sign if there is one. -/
def Reading.takeLong (r : Reading) (name : String) (value : Option String) :
    Except Stop Reading :=
  match longSwitch? name, value with
  | none, _ => .error .unknownArgument
  | some (.flag flag), none => r.takeFlag flag
  | some (.flag _), some _ => .error .unexpectedValue
  | some (.setting setting), some value => r.takeAttached setting value
  | some (.setting setting), none => r.takeDetached setting

/-- Takes the letters after a single dash. What follows the letter of an option is its value. -/
def Reading.takeLetters (r : Reading) : List Char → Except Stop Reading
  | [] => .ok r
  | letter :: rest =>
    match shortSwitch? letter with
    | none => .error .unknownArgument
    | some (.flag flag) =>
      match r.takeFlag flag with
      | .error stop => .error stop
      | .ok r => r.takeLetters rest
    | some (.setting setting) =>
      match rest with
      | [] => r.takeDetached setting
      | '=' :: value => r.takeAttached setting (String.ofList value)
      | value => r.takeAttached setting (String.ofList value)

/-- The name before the first equals sign, and the value after it. -/
def splitEquals (text : List Char) : String × Option String :=
  let name := text.takeWhile (· != '=')
  match text.drop name.length with
  | [] => (String.ofList name, none)
  | _ :: value => (String.ofList name, some (String.ofList value))

/-- Takes an argument that is neither a name nor letters: the value of an option that waits for one,
or an input. -/
def Reading.takeValue (r : Reading) (value : String) : Except Stop Reading :=
  match r.pending with
  | some (setting, none) => .ok { r with pending := some (setting, some value) }
  | _ => r.takeInput value

def Reading.take (r : Reading) (argument : String) : Except Stop Reading :=
  if r.inputsOnly then r.takeInput argument
  else
    match argument.toList with
    | ['-', '-'] => .ok { r with inputsOnly := true }
    | '-' :: '-' :: rest =>
      let (name, value) := splitEquals rest
      r.takeLong name value
    | '-' :: c :: rest => r.takeLetters (c :: rest)
    | _ => r.takeValue argument

/-- What the arguments ask for. -/
structure Request where
  input : String
  httpTimeout : Nat
  verbose : Bool
  options : Options
deriving DecidableEq, Repr

/-- The request that has been given. -/
def Given.request (given : Given) : Except Stop Request :=
  match given.input with
  | none => .error .missingInput
  | some input =>
    let has (flag : Flag) : Bool := given.flags.contains flag
    .ok {
      input := input
      httpTimeout := given.httpTimeout.getD defaultTimeout
      verbose := has .verbose
      options := {
        output := given.output.map Path.mk
        delimiter := given.delimiter.getD ","
        keepNames := has .keepNames
        force := has .force
        strict := has .strict
        checkOnly := has .check
        useStdout := has .stdout
        mojibakeSample := given.sample
        skipRows := given.skipRows.getD 0 } }

/-- Reads the arguments that follow the program's name. -/
def parse (arguments : List String) : Except Stop Request := do
  let r ← arguments.foldlM Reading.take {}
  let r ← r.settlePending
  r.given.request

/-! ## What is shown instead of a run -/

def versionLine : String := "csv-normalizer 1.0.0\n"

def usage : String := "\n".intercalate [
  "Usage: csv-normalizer [OPTIONS] <INPUT>",
  "",
  "INPUT is a path, an http(s) URL, or '-' for standard input.",
  "",
  "  -o, --output <FILE>            where the result goes; '-' is standard output",
  "  -f, --force                    replace the output file if it exists",
  "  -n, --keep-names               keep the column names as they are",
  "  -d, --delimiter <CHAR>         the delimiter of the output",
  "      --strict                   fail if any row is rejected",
  "      --check                    validate only",
  "      --stdout                   write to standard output",
  "      --fix-mojibake[=<BYTES>]   repair mojibake found in so many bytes",
  "      --skip-rows <LINES>        lines before the header",
  "      --http-timeout <SECONDS>   how long to wait for remote inputs",
  "  -v, --verbose                  tell more",
  "  -h, --help                     show this text",
  "  -V, --version                  show the version",
  ""]

def Stop.message : Stop → String
  | unknownArgument => "error: unexpected argument\n\n" ++ usage
  | missingInput => "error: an input is required\n\n" ++ usage
  | missingValue => "error: an option lacks its value\n\n" ++ usage
  | badValue => "error: an option has an invalid value\n\n" ++ usage
  | repeated => "error: an argument cannot be used several times\n\n" ++ usage
  | unexpectedValue => "error: a flag takes no value\n\n" ++ usage
  | help => usage
  | version => versionLine

/-- The exit code of the program if it does not run. -/
def Stop.exitCode (stop : Stop) : Nat := if stop.isRequest then 0 else 2

end TidyCsv.CommandLine
