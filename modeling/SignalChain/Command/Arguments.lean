import SignalChain.Decimal.Reading
import SignalChain.Rig.Instrument

/-!
# Command line arguments

Options have a long name and some of them a letter; letters can be joined after
one minus sign.  The value of an option follows an equals sign, its letter, or
as an argument of its own that does not look like an option.  An argument of
two minus signs ends the options.
-/

namespace SignalChain

namespace Command

/-! ## Options and what they are given -/

structure OptionKind where
  name : String
  letter : Option Char
  takesValue : Bool
deriving DecidableEq

inductive Argument where
  | option (kind : OptionKind) (value : String)
  | operand (text : String)
  | mistake
deriving DecidableEq

def looksLikeOption (argument : String) : Bool :=
  match argument.toList with
  | '-' :: _ :: _ => true
  | _ => false

def takeValue (kind : OptionKind) :
    List String -> Argument × List String
  | [] => (.mistake, [])
  | argument :: rest =>
      if looksLikeOption argument then (.mistake, rest)
      else (.option kind argument, rest)

def readNamed (kinds : List OptionKind) (body : List Char)
    (rest : List String) : Argument × List String :=
  let name := body.takeWhile (fun c => c != '=')
  match kinds.find? (fun kind => kind.name.toList == name) with
  | none => (.mistake, rest)
  | some kind =>
      match body.dropWhile (fun c => c != '=') with
      | [] =>
          if kind.takesValue then takeValue kind rest
          else (.option kind "", rest)
      | _ :: value =>
          if kind.takesValue then (.option kind (String.ofList value), rest)
          else (.mistake, rest)

/-- The value that is written right after the letter of an option. -/
def attachedValue : List Char -> String
  | '=' :: value => String.ofList value
  | value => String.ofList value

/-- Read options by their letters, up to the first mistake. -/
def readLetters (kinds : List OptionKind) (rest : List String) :
    List Char -> List Argument × List String
  | [] => ([], rest)
  | c :: letters =>
      match kinds.find? (fun kind => kind.letter == some c) with
      | none => ([.mistake], rest)
      | some kind =>
          if kind.takesValue then
            if letters.isEmpty then
              let (argument, rest) := takeValue kind rest
              ([argument], rest)
            else
              ([.option kind (attachedValue letters)], rest)
          else
            let (arguments, rest) := readLetters kinds rest letters
            (.option kind "" :: arguments, rest)

def readArgument (kinds : List OptionKind) (argument : String)
    (rest : List String) : List Argument × List String :=
  match argument.toList with
  | '-' :: '-' :: body =>
      let (argument, rest) := readNamed kinds body rest
      ([argument], rest)
  | '-' :: c :: letters => readLetters kinds rest (c :: letters)
  | _ => ([.operand argument], rest)

/-- The options that were given, the last one first, and the operands. -/
structure Given where
  options : List (String × String)
  operands : List String
deriving DecidableEq

namespace Given

def nothing : Given :=
  ⟨[], []⟩

def has (g : Given) (name : String) : Bool :=
  (g.options.lookup name).isSome

def value? (g : Given) (name : String) : Option String :=
  g.options.lookup name

/-- Note an argument; an option can be given once. -/
def note? (g : Given) : Argument -> Option Given
  | .option kind value =>
      if g.has kind.name then none
      else some { g with options := (kind.name, value) :: g.options }
  | .operand text => some { g with operands := g.operands ++ [text] }
  | .mistake => none

end Given

def readAll? (kinds : List OptionKind) (fuel : Nat) (g : Given)
    (arguments : List String) : Option Given :=
  match fuel, arguments with
  | 0, _ => none
  | _, [] => some g
  | fuel + 1, argument :: rest =>
      if argument = "--" then
        rest.foldlM (fun g text => g.note? (.operand text)) g
      else do
        let (read, rest) := readArgument kinds argument rest
        let g <- read.foldlM Given.note? g
        readAll? kinds fuel g rest

/-! ## Values -/

/-- A path, which is not empty. -/
def path? (text : String) : Option String :=
  if text.isEmpty then none else some text

def digits? (cs : List Char) : Option Nat :=
  match Decimal.readDigits cs with
  | (digit :: digits, []) => some (Decimal.ofDigits (digit :: digits))
  | _ => none

/-- A natural number up to a greatest one, perhaps with a plus sign. -/
def natural? (greatest : Nat) (text : String) : Option Nat :=
  let digits :=
    match text.toList with
    | '+' :: rest => rest
    | cs => cs
  (digits? digits).filter (fun n => n <= greatest)

/-- The id of an instrument's model; a minus sign before zero is allowed. -/
def modelId? (text : String) : Option UInt32 :=
  let n :=
    match text.toList with
    | '-' :: rest => (digits? rest).filter (fun n => n = 0)
    | _ => natural? 0xFFFFFFFF text
  n.map UInt32.ofNat

def index? (text : String) : Option Nat :=
  natural? 0xFFFFFFFFFFFFFFFF text

def family? (text : String) : Option InstrumentFamily :=
  (InstrumentFamily.parse text).toOption

/-- An option's value, read by `read?`; a value that cannot be read is refused. -/
def Given.read? {α : Type} (g : Given) (name : String)
    (read? : String -> Option α) : Option (Option α) :=
  match g.value? name with
  | none => some none
  | some text => (read? text).map some

/-! ## Commands -/

structure RigSource where
  rig : String
  design : Option String
  catalog : Option String
  family : Option InstrumentFamily

end Command

inductive Command where
  | resolve (source : Command.RigSource) (snapshot : Option Nat)
      (params json : Bool)
  | snapshots (source : Command.RigSource)
  | budget (source : Command.RigSource) (ceiling : Option Float)
  | decode (ids : List UInt32) (family : Option InstrumentFamily) (all : Bool)
  | validate (rig : String) (strict : Bool)
  | settings (init force : Bool)

namespace Command

structure Invocation where
  verbose : Bool
  settings : Option String
  command : Command

inductive Request where
  | run (invocation : Invocation)
  | version
  | help
  | mistake

def verbose : OptionKind :=
  ⟨"verbose", some 'v', false⟩

def settingsFile : OptionKind :=
  ⟨"settings", none, true⟩

def help : OptionKind :=
  ⟨"help", some 'h', false⟩

def version : OptionKind :=
  ⟨"version", some 'V', false⟩

def sharedOptions : List OptionKind :=
  [verbose, settingsFile, help]

def rigOptions : List OptionKind :=
  [⟨"design", some 'd', true⟩, ⟨"catalog", some 'c', true⟩,
    ⟨"family", none, true⟩]

/-- A rig is the only operand. -/
def rigSource? (g : Given) : Option RigSource :=
  match g.operands with
  | [rig] => do
      let rig <- path? rig
      let design <- g.read? "design" path?
      let catalog <- g.read? "catalog" path?
      let family <- g.read? "family" family?
      some ⟨rig, design, catalog, family⟩
  | _ => none

structure Shape where
  options : List OptionKind
  command? : Given -> Option Command

def resolveShape : Shape where
  options := rigOptions ++
    [⟨"snapshot", some 's', true⟩, ⟨"params", some 'p', false⟩,
      ⟨"json", none, false⟩]
  command? g := do
    let source <- rigSource? g
    let snapshot <- g.read? "snapshot" index?
    some (.resolve source snapshot (g.has "params") (g.has "json"))

def snapshotsShape : Shape where
  options := rigOptions
  command? g := (rigSource? g).map .snapshots

def budgetShape : Shape where
  options := rigOptions ++ [⟨"ceiling", none, true⟩]
  command? g := do
    let source <- rigSource? g
    let ceiling <- g.read? "ceiling" Decimal.read?
    some (.budget source ceiling)

def decodeShape : Shape where
  options := [⟨"family", some 'f', true⟩, ⟨"all", none, false⟩]
  command? g := do
    let ids <- g.operands.mapM modelId?
    let family <- g.read? "family" family?
    some (.decode ids family (g.has "all"))

def validateShape : Shape where
  options := [⟨"strict", none, false⟩]
  command? g :=
    match g.operands with
    | [rig] => (path? rig).map (fun rig => .validate rig (g.has "strict"))
    | _ => none

def settingsShape : Shape where
  options := [⟨"init", none, false⟩, ⟨"force", none, false⟩]
  command? g :=
    if g.operands.isEmpty then some (.settings (g.has "init") (g.has "force"))
    else none

def helpCommand : String :=
  "help"

def shapes : List (String × Shape) :=
  [("resolve", resolveShape), ("snapshots", snapshotsShape),
    ("budget", budgetShape), ("decode", decodeShape),
    ("validate", validateShape), ("settings", settingsShape)]

/-- What may be explained: nothing in particular, a command, or this itself. -/
def readHelp : List String -> Request
  | [] => .help
  | [name] =>
      if name = helpCommand || (shapes.lookup name).isSome then .help
      else .mistake
  | _ => .mistake

def readCommand (before : Given) (shape : Shape) (arguments : List String) :
    Request :=
  let kinds := sharedOptions ++ shape.options
  let request : Option Request := do
    let g <- readAll? kinds (arguments.length + 1) Given.nothing arguments
    if g.has help.name then
      some .help
    else do
      let command <- shape.command? g
      let inner <- g.read? settingsFile.name path?
      let outer <- before.read? settingsFile.name path?
      let loud := before.has verbose.name || g.has verbose.name
      some (.run ⟨loud, inner.or outer, command⟩)
  request.getD .mistake

/-- Note the options before a command's name; one of them may be the request. -/
def noteShared (g : Given) : List Argument -> Except Request Given
  | [] => .ok g
  | argument :: rest =>
      if argument = .option version "" then .error .version
      else if argument = .option help "" then .error .help
      else
        match g.note? argument with
        | none => .error .mistake
        | some g =>
            if g.value? settingsFile.name = some "" then .error .mistake
            else noteShared g rest

/-- Read arguments up to the name of a command, and then the command's own. -/
def readRequest (fuel : Nat) (g : Given) (arguments : List String) : Request :=
  match fuel, arguments with
  | 0, _ => .mistake
  | _, [] => .mistake
  | fuel + 1, argument :: rest =>
      match shapes.lookup argument with
      | some shape => readCommand g shape rest
      | none =>
          if argument = helpCommand then
            readHelp rest
          else if looksLikeOption argument && argument != "--" then
            let (read, rest) :=
              readArgument (sharedOptions ++ [version]) argument rest
            match noteShared g read with
            | .error request => request
            | .ok g => readRequest fuel g rest
          else
            .mistake

def parse (arguments : List String) : Request :=
  readRequest (arguments.length + 1) Given.nothing arguments

end Command

end SignalChain
