import TunnelBroker.Path
import TunnelBroker.Text.Numeral

/-!
The command line: options that every command takes, the name of a command, and what the
command itself takes. Options may stand before or behind the command's name.
-/

set_option autoImplicit false

namespace TunnelBroker.CommandLine

inductive Action where
  | daemonStart
  | stop
  | ping
  | establish (organization : String)
  | proxy (organization address : String) (milliseconds : Option UInt64)
  | version
  deriving DecidableEq, Repr

structure Invocation where
  config : Option Path
  action : Action
  deriving DecidableEq, Repr

inductive Verdict where
  | run (invocation : Invocation)
  | version
  | help
  | misuse
  deriving DecidableEq, Repr

inductive Name where
  | daemonStart
  | stop
  | ping
  | establish
  | proxy
  | version
  deriving DecidableEq, Repr

namespace Name

def all : List Name := [daemonStart, stop, ping, establish, proxy, version]

def text : Name → String
  | daemonStart => "daemon-start"
  | stop => "stop"
  | ping => "ping"
  | establish => "establish"
  | proxy => "proxy"
  | version => "version"

def ofBytes? (bytes : Bytes) : Option Name :=
  all.find? fun name => Text.encode name.text = bytes

def arity : Name → Nat
  | establish => 1
  | proxy => 2
  | _ => 0

end Name

/-- Where options are read: before the command's name, or behind it. -/
inductive Level where
  | program
  | command (name : Name)
  deriving DecidableEq, Repr

inductive Setting where
  | config
  | milliseconds
  deriving DecidableEq, Repr

structure Options where
  verbose : Bool
  config : Option Path
  milliseconds : Option UInt64
  deriving DecidableEq, Repr

def Options.initial : Options := ⟨false, none, none⟩

inductive Argument where
  | word (text : Bytes)
  | ending
  | long (name : Bytes) (value : Option Bytes)
  | short (letters : Bytes)
  deriving DecidableEq, Repr

def hyphen : UInt8 := 45

def equalsSign : UInt8 := 61

def cutValue (text : Bytes) : Bytes × Option Bytes :=
  match text.span (· != equalsSign) with
  | (name, []) => (name, none)
  | (name, _ :: value) => (name, some value)

def Argument.ofBytes (bytes : Bytes) : Argument :=
  match bytes with
  | first :: second :: rest =>
    if first != hyphen then .word bytes
    else if second != hyphen then .short (second :: rest)
    else if rest.isEmpty then .ending
    else
      let (name, value) := cutValue rest
      .long name value
  | _ => .word bytes

namespace Options

def setVerbose (options : Options) : Except Verdict Options :=
  if options.verbose then .error .misuse else .ok { options with verbose := true }

def set (options : Options) (setting : Setting) (value : Bytes) : Except Verdict Options :=
  match setting with
  | .config =>
    if options.config.isSome || value.isEmpty then .error .misuse
    else .ok { options with config := some ⟨value⟩ }
  | .milliseconds =>
    match options.milliseconds, (Text.decode? value).map fun text =>
        Text.readNumeral UInt64.size Text.uint64_size_pos text.toList with
    | none, some (.ok number) => .ok { options with milliseconds := some (.ofFin number) }
    | _, _ => .error .misuse

end Options

structure Reading where
  options : Options
  /-- An option whose value is the next argument. -/
  pending : Option Setting
  words : List Bytes
  ended : Bool
  deriving DecidableEq, Repr

def Reading.initial : Reading := ⟨.initial, none, [], false⟩

def Level.setting? (level : Level) (name : Bytes) : Option Setting :=
  if name = Text.encode "config" then some .config
  else if name = Text.encode "timeout-ms" && level = .command .proxy then some .milliseconds
  else none

def readFlag (level : Level) (options : Options) (name : Bytes) : Except Verdict Options :=
  if name = Text.encode "verbose" then options.setVerbose
  else if name = Text.encode "help" then .error .help
  else if name = Text.encode "version" && level = .program then .error .version
  else .error .misuse

/-- Options of one letter each, in one argument. The rest of it may be a value. -/
def readLetters (level : Level) (options : Options) :
    Bytes → Except Verdict (Options × Option Setting)
  | [] => .ok (options, none)
  | letter :: rest =>
    if letter = 'v'.toUInt8 then do readLetters level (← options.setVerbose) rest
    else if letter = 'c'.toUInt8 then
      match rest with
      | [] => .ok (options, some .config)
      | mark :: value => do
        let value := if mark = equalsSign then value else mark :: value
        return (← options.set .config value, none)
    else if letter = 'h'.toUInt8 then .error .help
    else if letter = 'V'.toUInt8 && level = .program then .error .version
    else .error .misuse

def readWord (level : Level) (reading : Reading) (text : Bytes) : Except Verdict Reading :=
  match level with
  | .program => .error .misuse
  | .command name =>
    if reading.words.length < name.arity then
      .ok { reading with words := reading.words ++ [text] }
    else .error .misuse

def readArgument (level : Level) (reading : Reading) (bytes : Bytes) :
    Except Verdict Reading := do
  if reading.ended then return ← readWord level reading bytes
  match reading.pending, Argument.ofBytes bytes with
  | some setting, .word value =>
    return { reading with options := ← reading.options.set setting value, pending := none }
  | some _, _ => throw .misuse
  | none, .word text => readWord level reading text
  | none, .ending =>
    match level with
    | .program => throw .misuse
    | .command _ => return { reading with ended := true }
  | none, .short letters =>
    let (options, pending) ← readLetters level reading.options letters
    return { reading with options := options, pending := pending }
  | none, .long name value =>
    match level.setting? name, value with
    | some setting, some value =>
      return { reading with options := ← reading.options.set setting value }
    | some setting, none => return { reading with pending := some setting }
    | none, none => return { reading with options := ← readFlag level reading.options name }
    | none, some _ => throw .misuse

def action? (name : Name) (words : List String) (milliseconds : Option UInt64) :
    Option Action :=
  match name, words with
  | .daemonStart, [] => some .daemonStart
  | .stop, [] => some .stop
  | .ping, [] => some .ping
  | .version, [] => some .version
  | .establish, [organization] => some (.establish organization)
  | .proxy, [organization, address] => some (.proxy organization address milliseconds)
  | _, _ => none

/-- All arguments are read. Options behind the command's name count more. -/
def conclude (name : Name) (outer : Options) (reading : Reading) : Verdict :=
  match reading.pending, reading.words.mapM Text.decode? with
  | none, some words =>
    match action? name words reading.options.milliseconds with
    | some action => .run ⟨reading.options.config.or outer.config, action⟩
    | none => .misuse
  | _, _ => .misuse

def readCommand (name : Name) (outer : Options) : Reading → List Bytes → Verdict
  | reading, [] => conclude name outer reading
  | reading, bytes :: rest =>
    match readArgument (.command name) reading bytes with
    | .error verdict => verdict
    | .ok reading => readCommand name outer reading rest

def helpOn : List Bytes → Verdict
  | [] => .help
  | [topic] =>
    if topic = Text.encode "help" || (Name.ofBytes? topic).isSome then .help else .misuse
  | _ => .misuse

def readProgram : Reading → List Bytes → Verdict
  | _, [] => .misuse
  | reading, bytes :: rest =>
    match reading.pending, Argument.ofBytes bytes with
    | none, .word text =>
      if text = Text.encode "help" then helpOn rest
      else
        match Name.ofBytes? text with
        | some name => readCommand name reading.options .initial rest
        | none => .misuse
    | _, _ =>
      match readArgument .program reading bytes with
      | .error verdict => verdict
      | .ok reading => readProgram reading rest

def parse (arguments : List Bytes) : Verdict :=
  readProgram .initial arguments

end TunnelBroker.CommandLine
