/-!
# Arguments

What a user says on the command line: options with a value, flags, and requests for help or the
version.

* `Setting`, `Flag` — the options and flags with their names.
* `Arguments` — what has been given.  `Arguments.set` takes in an option, whose value has to fit,
  and refuses one that has been given before.
* `Arguments.parse` — takes in the arguments from left to right, and stops at the first that asks
  for help or the version or makes no sense.

A value follows its option, either as the next argument or behind an equals sign.  Only behind the
sign may it begin with a dash, unless it is a dash alone.
-/

namespace BatchBridge.CommandLine

/-! ## Names -/

/-- The options that take a value. -/
inductive Setting where
  | listenPort
  | listenHost
  | sinkHost
  | sinkPort
  | config
  | maxFrameBytes
  | readTimeoutSecs
  | sinkTimeoutSecs
  | maxConnections
  | authToken
  deriving DecidableEq, Repr

/-- The name of an option, behind two dashes. -/
def Setting.name : Setting → String
  | listenPort => "listen-port"
  | listenHost => "listen-host"
  | sinkHost => "sink-host"
  | sinkPort => "sink-port"
  | config => "config"
  | maxFrameBytes => "max-frame-bytes"
  | readTimeoutSecs => "read-timeout-secs"
  | sinkTimeoutSecs => "sink-timeout-secs"
  | maxConnections => "max-connections"
  | authToken => "auth-token"

/-- All options. -/
def Setting.all : List Setting :=
  [listenPort, listenHost, sinkHost, sinkPort, config, maxFrameBytes, readTimeoutSecs,
    sinkTimeoutSecs, maxConnections, authToken]

/-- What takes no value. -/
inductive Flag where
  | strictTypes
  | negotiateCompression
  | help
  | version
  deriving DecidableEq, Repr

/-- The name of a flag, behind two dashes. -/
def Flag.name : Flag → String
  | strictTypes => "strict-types"
  | negotiateCompression => "negotiate-compression"
  | help => "help"
  | version => "version"

/-- All flags. -/
def Flag.all : List Flag := [strictTypes, negotiateCompression, help, version]

/-- The flag of a letter behind one dash. -/
def Flag.ofLetter? : Char → Option Flag
  | 'h' => some help
  | 'V' => some version
  | _ => none

/-! ## Numbers -/

/-- The value of decimal digits, of which there is one at least. -/
def digits? (text : List Char) : Option Nat :=
  if text.isEmpty || !text.all Char.isDigit then none
  else some (text.foldl (fun n c => n * 10 + (c.toNat - 48)) 0)

/-- A number below a bound; there may be a plus sign. -/
def natBelow? (bound : Nat) (text : String) : Option Nat :=
  let digits := match text.toList with
    | '+' :: rest => digits? rest
    | text => digits? text
  digits.filter (· < bound)

/-- A number below a bound; there may be a sign, and zero may be negative. -/
def signedBelow? (bound : Nat) (text : String) : Option Nat :=
  match text.toList with
  | '-' :: rest => (digits? rest).filter (· = 0)
  | _ => natBelow? bound text

/-- A number of 16 bits. -/
def uint16? (text : String) : Option UInt16 := (signedBelow? UInt16.size text).map UInt16.ofNat

/-- A number of 32 bits. -/
def uint32? (text : String) : Option UInt32 := (signedBelow? UInt32.size text).map UInt32.ofNat

/-- A number of 64 bits, where zero has no sign. -/
def uint64? (text : String) : Option UInt64 := (natBelow? UInt64.size text).map UInt64.ofNat

/-! ## Arguments -/

/-- What has been given. -/
structure Arguments where
  listenPort : Option UInt16
  listenHost : Option String
  sinkHost : Option String
  sinkPort : Option UInt16
  /-- The path of a file with settings. -/
  config : Option String
  maxFrameBytes : Option UInt32
  readTimeoutSecs : Option UInt64
  sinkTimeoutSecs : Option UInt64
  maxConnections : Option UInt64
  authToken : Option String
  strictTypes : Bool
  negotiateCompression : Bool
  deriving DecidableEq, Repr

/-- Why taking in arguments stops early. -/
inductive Stop where
  | help
  | version
  /-- The arguments make no sense. -/
  | usage
  deriving DecidableEq, Repr

namespace Arguments

/-- Nothing has been given. -/
def none : Arguments :=
  { listenPort := .none, listenHost := .none, sinkHost := .none, sinkPort := .none, config := .none
    maxFrameBytes := .none, readTimeoutSecs := .none, sinkTimeoutSecs := .none
    maxConnections := .none, authToken := .none, strictTypes := false
    negotiateCompression := false }

/-- A value that fits, for something that has not been given before. -/
def fresh {α : Type} (given : Option α) (value : Option α) (next : α → Arguments) :
    Except Stop Arguments :=
  match given, value with
  | .none, some value => .ok (next value)
  | _, _ => .error .usage

/-- Takes in an option and its value. -/
def set (setting : Setting) (value : String) (given : Arguments) : Except Stop Arguments :=
  match setting with
  | .listenPort => fresh given.listenPort (uint16? value) ({ given with listenPort := · })
  | .listenHost => fresh given.listenHost (some value) ({ given with listenHost := · })
  | .sinkHost => fresh given.sinkHost (some value) ({ given with sinkHost := · })
  | .sinkPort => fresh given.sinkPort (uint16? value) ({ given with sinkPort := · })
  | .config =>
    fresh given.config (if value.isEmpty then .none else some value) ({ given with config := · })
  | .maxFrameBytes => fresh given.maxFrameBytes (uint32? value) ({ given with maxFrameBytes := · })
  | .readTimeoutSecs =>
    fresh given.readTimeoutSecs (uint64? value) ({ given with readTimeoutSecs := · })
  | .sinkTimeoutSecs =>
    fresh given.sinkTimeoutSecs (uint64? value) ({ given with sinkTimeoutSecs := · })
  | .maxConnections =>
    fresh given.maxConnections (uint64? value) ({ given with maxConnections := · })
  | .authToken => fresh given.authToken (some value) ({ given with authToken := · })

/-- Takes in a flag. -/
def raise (flag : Flag) (given : Arguments) : Except Stop Arguments :=
  match flag with
  | .strictTypes =>
    if given.strictTypes then .error .usage else .ok { given with strictTypes := true }
  | .negotiateCompression =>
    if given.negotiateCompression then .error .usage
    else .ok { given with negotiateCompression := true }
  | .help => .error .help
  | .version => .error .version

/-! ## From left to right -/

/-- An argument by its form. -/
inductive Word where
  /-- Two dashes alone. -/
  | separator
  /-- A name behind two dashes, and what follows its equals sign. -/
  | long (name : String) (value : Option String)
  /-- Letters behind one dash. -/
  | short (letters : List Char)
  | plain (text : String)
  deriving DecidableEq, Repr

/-- The form of an argument.  A dash alone is plain. -/
def Word.ofText (text : String) : Word :=
  match text.toList with
  | ['-', '-'] => .separator
  | '-' :: '-' :: rest =>
    match rest.span (· ≠ '=') with
    | (name, _ :: value) => .long (String.ofList name) (some (String.ofList value))
    | (name, []) => .long (String.ofList name) .none
  | ['-'] => .plain text
  | '-' :: letters => .short letters
  | _ => .plain text

/-- What a name behind two dashes stands for. -/
def named (name : String) : Option (Setting ⊕ Flag) :=
  match Setting.all.find? (·.name == name), Flag.all.find? (·.name == name) with
  | some setting, _ => some (.inl setting)
  | .none, some flag => some (.inr flag)
  | .none, .none => .none

/-- The flag that comes first among letters. -/
def lettered (letters : List Char) : Option Flag := letters.head?.bind Flag.ofLetter?

/-- Takes in arguments.  Nothing plain may stand by itself, and nothing at all behind a
separator. -/
def take : Arguments → List Word → Except Stop Arguments
  | given, [] => .ok given
  | given, [.separator] => .ok given
  | _, .separator :: _ | _, .plain _ :: _ => .error .usage
  | given, .short letters :: rest =>
    match (lettered letters).map given.raise with
    | some (.ok given) => take given rest
    | some (.error stop) => .error stop
    | .none => .error .usage
  | given, .long name (some value) :: rest =>
    match named name with
    | some (.inl setting) =>
      match given.set setting value with
      | .ok given => take given rest
      | .error stop => .error stop
    | _ => .error .usage
  | given, .long name .none :: rest =>
    match named name, rest with
    | some (.inr flag), rest =>
      match given.raise flag with
      | .ok given => take given rest
      | .error stop => .error stop
    | some (.inl setting), .plain value :: rest =>
      match given.set setting value with
      | .ok given => take given rest
      | .error stop => .error stop
    | _, _ => .error .usage

/-- What arguments say. -/
def parse (arguments : List String) : Except Stop Arguments :=
  take none (arguments.map Word.ofText)

end Arguments
end BatchBridge.CommandLine
