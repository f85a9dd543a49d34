import PacketRelay.Text.Terminal

/-!
The command line: one optional interface name and three options with a value.
An option that is read is held until the next word, so what is wrong with its
value is reported after an unknown word that follows it.
-/

namespace PacketRelay

inductive Parameter where
  | socket
  | config
  | logLevel
  deriving DecidableEq, Repr

def Parameter.shown : Parameter → String
  | .socket => "--socket <SOCKET>"
  | .config => "--config <CONFIG>"
  | .logLevel => "--log-level <LOG_LEVEL>"

def Parameter.allows (parameter : Parameter) (value : String) : Bool :=
  match parameter with
  | .socket | .config => value ≠ ""
  | .logLevel => true

inductive Switch where
  | help
  | version
  deriving DecidableEq, Repr

def Switch.shown : Switch → String
  | .help => "--help"
  | .version => "--version"

inductive Misuse where
  | unexpected (word : String)
  | valueMissing (parameter : Parameter)
  | repeated (parameter : Parameter)
  | valueUnexpected (value : String) (switch : Switch)
  deriving DecidableEq, Repr

/-- What is shown of a word of the command line cannot steer a terminal. -/
def Misuse.message : Misuse → String
  | .unexpected word => s!"unexpected argument '{Text.Terminal.plain word}' found"
  | .valueMissing parameter =>
      s!"a value is required for '{parameter.shown}' but none was supplied"
  | .repeated parameter => s!"the argument '{parameter.shown}' cannot be used multiple times"
  | .valueUnexpected value switch =>
      s!"unexpected value '{Text.Terminal.plain value}' for '{switch.shown}' found; " ++
        "no more were expected"

structure Given where
  interface : Option String := none
  socket : Option String := none
  config : Option String := none
  logLevel : Option String := none
  deriving DecidableEq, Repr

namespace Given

def value? (given : Given) : Parameter → Option String
  | .socket => given.socket
  | .config => given.config
  | .logLevel => given.logLevel

def set (given : Given) (value : String) : Parameter → Given
  | .socket => { given with socket := some value }
  | .config => { given with config := some value }
  | .logLevel => { given with logLevel := some value }

end Given

namespace CommandLine

inductive Halt where
  | misuse (misuse : Misuse)
  | switch (switch : Switch)
  deriving DecidableEq, Repr

inductive Word where
  /-- From here on nothing is an option. -/
  | terminator
  | long (name : String) (attached : Option String)
  | short (letter : Char) (rest : List Char)
  | plain
  deriving DecidableEq, Repr

def Word.ofChars : List Char → Word
  | ['-', '-'] => .terminator
  | '-' :: '-' :: cs =>
      let name := cs.takeWhile (· ≠ '=')
      match cs.drop name.length with
      | [] => .long (String.ofList name) none
      | _ :: value => .long (String.ofList name) (some (String.ofList value))
  | '-' :: letter :: rest => .short letter rest
  | _ => .plain

def longParameter? (name : String) : Option Parameter :=
  match name with
  | "socket" => some .socket
  | "config" => some .config
  | "log-level" => some .logLevel
  | _ => none

def longSwitch? (name : String) : Option Switch :=
  match name with
  | "help" => some .help
  | "version" => some .version
  | _ => none

def shortParameter? (letter : Char) : Option Parameter :=
  match letter with
  | 's' => some .socket
  | 'c' => some .config
  | _ => none

def shortSwitch? (letter : Char) : Option Switch :=
  match letter with
  | 'h' => some .help
  | 'V' => some .version
  | _ => none

/-- The value in the same word as a short option, after an equals sign or without one. -/
def attachedValue : List Char → Option String
  | [] => none
  | '=' :: value => some (String.ofList value)
  | value => some (String.ofList value)

structure Reading where
  given : Given := {}
  /-- The option read last, with its value once that is read. -/
  held : Option (Parameter × Option String) := none
  terminated : Bool := false
  deriving DecidableEq, Repr

namespace Reading

def give (parameter : Parameter) (value : String) (reading : Reading) : Except Halt Reading :=
  if (reading.given.value? parameter).isSome then .error (.misuse (.repeated parameter))
  else if parameter.allows value then
    .ok { reading with given := reading.given.set value parameter }
  else .error (.misuse (.valueMissing parameter))

def release (reading : Reading) : Except Halt Reading :=
  match reading.held with
  | none => .ok reading
  | some (parameter, none) => .error (.misuse (.valueMissing parameter))
  | some (parameter, some value) => { reading with held := none }.give parameter value

def readParameter (parameter : Parameter) (attached : Option String) (reading : Reading) :
    Except Halt Reading := do
  let released ← reading.release
  match attached with
  | some value => released.give parameter value
  | none => return { released with held := some (parameter, none) }

def readSwitch (switch : Switch) (attached : Option String) (reading : Reading) :
    Except Halt Reading := do
  match attached with
  | some value => .error (.misuse (.valueUnexpected value switch))
  | none =>
      let _ ← reading.release
      .error (.switch switch)

def readPlain (word : String) (reading : Reading) : Except Halt Reading := do
  match reading.held, reading.terminated with
  | some (parameter, none), false => return { reading with held := some (parameter, some word) }
  | _, _ =>
      if reading.given.interface.isSome then .error (.misuse (.unexpected word))
      else
        let released ← reading.release
        return { released with given := { released.given with interface := some word } }

def step (reading : Reading) (word : String) : Except Halt Reading :=
  match if reading.terminated then .plain else Word.ofChars word.toList with
  | .terminator => .ok { reading with terminated := true }
  | .plain => reading.readPlain word
  | .long name attached =>
      match longParameter? name, longSwitch? name with
      | some parameter, _ => reading.readParameter parameter attached
      | none, some switch => reading.readSwitch switch attached
      | none, none => .error (.misuse (.unexpected ("--" ++ name)))
  | .short letter rest =>
      match shortParameter? letter, shortSwitch? letter with
      | some parameter, _ => reading.readParameter parameter (attachedValue rest)
      | none, some switch => reading.readSwitch switch none
      | none, none => .error (.misuse (.unexpected (String.ofList ['-', letter])))

end Reading

def parse (words : List String) : Except Halt Given := do
  return (← (← words.foldlM Reading.step {}).release).given

def versionText : List String :=
  ["tunbridge 0.1.0"]

def helpText : List String :=
  ["Relays raw IP packets between a TUN device and local clients on a Unix socket, " ++
      "using 4-byte big-endian length-prefixed frames",
    "",
    "Usage: tunbridge [OPTIONS] [INTERFACE]",
    "",
    "Arguments:",
    "  [INTERFACE]  TUN interface name [default: vpn0]",
    "",
    "Options:",
    "  -s, --socket <SOCKET>        Path of the Unix socket clients connect to " ++
      "[default: /tmp/vpn-tun.sock]",
    "  -c, --config <CONFIG>        Optional TOML configuration file",
    "      --log-level <LOG_LEVEL>  Log level, used when RUST_LOG is not set",
    "  -h, --help                   Print help",
    "  -V, --version                Print version"]

end CommandLine
end PacketRelay
