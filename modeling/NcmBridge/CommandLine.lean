/-!
# The command line

Options come in two spellings, some of them also with a single letter. A value follows its option in
the same argument or in the next one; an option that waits for a value takes the next argument if that
is not an option itself. Nothing is said twice. Arguments are taken from left to right, and the first
that is wrong, or asks for help, decides.
-/

namespace NcmBridge

/-- What the command line asks for. -/
structure Arguments where
  config : Option String := none
  saveConfig : Bool := false
  listDevices : Bool := false
  logLevel : Option String := none
  metricsPort : Option UInt16 := none
  deriving DecidableEq, Repr, Inhabited

namespace CommandLine

/-- An option that takes a value. -/
inductive ValueOption
  | config
  | logLevel
  | metricsPort
  deriving DecidableEq, Repr, Inhabited

def ValueOption.text : ValueOption → String
  | config => "--config <PATH>"
  | logLevel => "--log-level <LEVEL>"
  | metricsPort => "--metrics-port <PORT>"

inductive Flag
  | saveConfig
  | listDevices
  | help
  | version
  deriving DecidableEq, Repr, Inhabited

def Flag.text : Flag → String
  | saveConfig => "--save-config"
  | listDevices => "--list-devices"
  | help => "--help"
  | version => "--version"

/-- An option. -/
inductive Known
  | value (o : ValueOption)
  | flag (f : Flag)
  deriving DecidableEq, Repr, Inhabited

/-- Why the command line does not lead to a run. -/
inductive Stop
  | help
  | version
  | unknown (argument : String)
  | missingValue (o : ValueOption)
  | badValue (o : ValueOption) (value : String)
  | repeated (text : String)
  | unexpectedValue (f : Flag) (value : String)
  deriving DecidableEq, Repr, Inhabited

namespace Stop

/-- The exit code: who asked for help or for the version got it. -/
def exitCode : Stop → Nat
  | help | version => 0
  | _ => 2

end Stop

/-! ### Names -/

/-- The option with a long name. -/
def long? (name : String) : Option Known :=
  match name with
  | "config" => some (.value .config)
  | "log-level" => some (.value .logLevel)
  | "metrics-port" | "prometheusport" => some (.value .metricsPort)
  | "save-config" => some (.flag .saveConfig)
  | "list-devices" => some (.flag .listDevices)
  | "help" => some (.flag .help)
  | "version" => some (.flag .version)
  | _ => none

def short? : Char → Option Known
  | 'c' => some (.value .config)
  | 'l' => some (.value .logLevel)
  | 'h' => some (.flag .help)
  | 'V' => some (.flag .version)
  | _ => none

/-! ### Values -/

/-- Reads a port: digits, perhaps after a sign, for a number of 16 bits. -/
def port? (text : String) : Option UInt16 :=
  let (negative, digits) := match text.toList with
    | '-' :: s => (true, s)
    | '+' :: s => (false, s)
    | s => (false, s)
  let n := digits.foldl (fun n c => 10 * n + (c.toNat - 48)) 0
  if digits ≠ [] ∧ digits.all Char.isDigit ∧ n < UInt16.size ∧ (negative → n = 0) then
    some (UInt16.ofNat n)
  else none

/-- What is asked for so far, and the option that was named last, with its value if it has one by
now. -/
structure Reading where
  taken : Arguments := {}
  pending : Option (ValueOption × Option String) := none
  deriving DecidableEq, Repr, Inhabited

/-- Takes over an option. -/
def takeValue (a : Arguments) (o : ValueOption) (value : String) : Except Stop Arguments :=
  match o with
  | .config =>
    if a.config.isSome then .error (.repeated o.text)
    else if value = "" then .error (.missingValue o)
    else .ok { a with config := some value }
  | .logLevel =>
    if a.logLevel.isSome then .error (.repeated o.text)
    else .ok { a with logLevel := some value }
  | .metricsPort =>
    if a.metricsPort.isSome then .error (.repeated o.text)
    else match port? value with
      | some n => .ok { a with metricsPort := some n }
      | none => .error (.badValue o value)

def takeFlag (a : Arguments) : Flag → Except Stop Arguments
  | .saveConfig =>
    if a.saveConfig then .error (.repeated Flag.saveConfig.text) else .ok { a with saveConfig := true }
  | .listDevices =>
    if a.listDevices then .error (.repeated Flag.listDevices.text)
    else .ok { a with listDevices := true }
  | .help => .error .help
  | .version => .error .version

namespace Reading

/-- Takes over the option that was named last; it must have its value. -/
def settle (r : Reading) : Except Stop Arguments :=
  match r.pending with
  | none => .ok r.taken
  | some (o, none) => .error (.missingValue o)
  | some (o, some value) => takeValue r.taken o value

/-- An option is named, and its value may come with it. -/
def name (r : Reading) (o : ValueOption) (attached : Option String) : Except Stop Reading := do
  let taken ← r.settle
  match attached with
  | none => return ⟨taken, some (o, none)⟩
  | some value => return ⟨← takeValue taken o value, none⟩

def set (r : Reading) (f : Flag) : Except Stop Reading := do
  return ⟨← takeFlag (← r.settle) f, none⟩

/-- Takes a long option, after its dashes. -/
def long (r : Reading) (s : List Char) : Except Stop Reading :=
  let attached := match s.dropWhile (· ≠ '=') with
    | [] => none
    | _ :: value => some (String.ofList value)
  match long? (String.ofList (s.takeWhile (· ≠ '='))), attached with
  | none, _ => .error (.unknown ("--" ++ String.ofList s))
  | some (.value o), attached => r.name o attached
  | some (.flag f), some value => .error (.unexpectedValue f value)
  | some (.flag f), none => r.set f

/-- Takes letters, after their dash. What follows a letter that takes a value is the value; an equals
sign may stand before it. -/
def letters (r : Reading) : List Char → Except Stop Reading
  | [] => .ok r
  | c :: rest =>
    match short? c, rest with
    | none, _ => .error (.unknown ("-" ++ String.singleton c))
    | some (.value o), [] => r.name o none
    | some (.value o), '=' :: value => r.name o (some (String.ofList value))
    | some (.value o), value => r.name o (some (String.ofList value))
    | some (.flag f), rest => do (← r.set f).letters rest

/-- Takes an argument that is no option: it can only be the value of one. -/
def word (r : Reading) (argument : String) : Except Stop Reading :=
  match r.pending with
  | some (o, none) => .ok { r with pending := some (o, some argument) }
  | _ => .error (.unknown argument)

def take (r : Reading) (argument : String) : Except Stop Reading :=
  match argument.toList with
  | '-' :: '-' :: s => r.long s
  | '-' :: c :: s => r.letters (c :: s)
  | _ => r.word argument

end Reading

/-- Takes all arguments. Two dashes end the options, and then nothing may follow. -/
def readAll (r : Reading) : List String → Except Stop Arguments
  | [] => r.settle
  | "--" :: [] => r.settle
  | "--" :: argument :: _ => .error (.unknown argument)
  | argument :: rest => do readAll (← r.take argument) rest

def parse (arguments : List String) : Except Stop Arguments := readAll {} arguments

end CommandLine

end NcmBridge
