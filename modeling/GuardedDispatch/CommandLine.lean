import GuardedDispatch.Config.Schema
import GuardedDispatch.Json.Layout

/-!
# The command line

`switchboard` looks at configuration files: it validates one, shows the policies in effect, or
prints the schema. Options of the program stand before the command, options of a command after it,
each at most once. Arguments are read from left to right, so that a request for help counts if what
stands before it makes sense. What a command answers is a function of the arguments, the files and
the environment.
-/

namespace GuardedDispatch.CommandLine

open Yaml

/-- The program's name. -/
def program : String := "switchboard"

/-- The program's version. -/
def version : String := "0.1.0"

/-- What there is help on: the program or one of its commands. -/
inductive Topic where
  | program
  | validate
  | policies
  | schema
  | help
  deriving DecidableEq, Repr

/-- The command with a name, as something that there is help on. -/
def Topic.ofCommand? (name : String) : Option Topic :=
  [("validate", validate), ("policies", policies), ("schema", schema), ("help", help)].lookup name

/-- What the program is asked to do. -/
inductive Command where
  | validate
  | policies (connector? : Option ConnectorType)
  | schema (format : String)
  | help (topic : Topic)
  | version
  deriving DecidableEq, Repr

/-- A command with the options of the program. -/
structure Request where
  config : String := "switchboard.yaml"
  verbose : Bool := false
  logJson : Bool := false
  command : Command := .help .program
  deriving DecidableEq, Repr

/-- What a run leaves behind: its exit code, its output, and what it complains with. -/
structure Outcome where
  code : Nat
  output : String := ""
  complaint? : Option String := none
  deriving DecidableEq, Repr

/-- Whether an argument could be an option rather than a value. -/
def looksLikeOption (s : String) : Bool := s.startsWith "-" && s != "-"

/-- A long option with its value, which follows an equals sign or is the next argument. -/
def valueOf? (name : String) : List String → Option (String × List String)
  | [] => none
  | arg :: rest =>
    if arg == name then
      match rest with
      | value :: rest => if looksLikeOption value then none else some (value, rest)
      | [] => none
    else if arg.startsWith (name ++ "=") then
      some (String.ofList (arg.toList.drop (name.length + 1)), rest)
    else none

/-- What the arguments of a command come to: a request for help, or the value of its option. -/
inductive Arguments (α : Type) where
  | help
  | option (value? : Option α)

/-- Whether an argument asks for help. -/
def asksHelp (arg : String) : Bool := arg == "--help" || arg.startsWith "-h"

/-- Reads the arguments of a command that has no option, or none that is left. Two dashes may end
them. -/
def readRest? {α : Type} (value? : Option α) : List String → Option (Arguments α)
  | [] | ["--"] => some (.option value?)
  | arg :: _ => if asksHelp arg then some .help else none

/-- Reads the arguments of a command that has one option. -/
def readOption? {α : Type} (name : String) (check : String → Option α) (args : List String) :
    Option (Arguments α) :=
  match readRest? none args with
  | some arguments => some arguments
  | none => do
    let (value, rest) ← valueOf? name args
    readRest? (some (← check value)) rest

/-- The command that arguments ask for, given what there is help on and what an option means. -/
def Arguments.command {α : Type} (topic : Topic) (meaning : Option α → Command) :
    Arguments α → Command
  | .help => .help topic
  | .option value? => meaning value?

/-- Reads a command and its options. -/
def readCommand? : List String → Option Command
  | "validate" :: rest =>
    (readRest? (none : Option Unit) rest).map (·.command .validate fun _ => .validate)
  | "policies" :: rest =>
    (readOption? "--connector" (fun s => (ConnectorType.parse s).toOption) rest).map
      (·.command .policies .policies)
  | "schema" :: rest =>
    (readOption? "--format" some rest).map (·.command .schema fun s? => .schema (s?.getD "json"))
  | ["help"] => some (.help .program)
  | ["help", name] => (Topic.ofCommand? name).map .help
  | _ => none

/-- What is known of a request while its options are read: which of them were given. -/
structure Given where
  config? : Option String := none
  verbose : Bool := false
  logJson : Bool := false

/-- The request with a command. -/
def Given.request (g : Given) (command : Command) : Request :=
  { config := g.config?.getD "switchboard.yaml", verbose := g.verbose, logJson := g.logJson
    command }

/-- Takes in the path of the configuration. -/
def Given.takeConfig? (g : Given) (path : String) : Option Given :=
  if g.config?.isSome || path.isEmpty then none else some { g with config? := some path }

/-- Takes in the option to be verbose. -/
def Given.takeVerbose? (g : Given) : Option Given :=
  if g.verbose then none else some { g with verbose := true }

/-- What short options in one argument come to: a request, or options with the arguments left. -/
inductive ShortAnswer where
  | request (command : Command)
  | options (given : Given) (rest : List String)

/-- Reads short options that share one argument; the rest of it, or the next argument, is the path
after `c`. -/
def readShort? (g : Given) (rest : List String) : List Char → Option ShortAnswer
  | [] => some (.options g rest)
  | 'v' :: more => do readShort? (← g.takeVerbose?) rest more
  | 'h' :: _ => some (.request (.help .program))
  | 'V' :: _ => some (.request .version)
  | 'c' :: [] =>
    match rest with
    | value :: rest =>
      if looksLikeOption value then none
      else (g.takeConfig? value).map (.options · rest)
    | [] => none
  | 'c' :: '=' :: path => (g.takeConfig? (String.ofList path)).map (.options · rest)
  | 'c' :: path => (g.takeConfig? (String.ofList path)).map (.options · rest)
  | _ => none

/-- Reads the program's options and then its command; none if the arguments make no sense. -/
def readFor? (fuel : Nat) (g : Given) (args : List String) : Option Request :=
  match fuel, args with
  | 0, _ | _, [] => none
  | fuel + 1, arg :: rest =>
    if arg == "--help" then some (g.request (.help .program))
    else if arg == "--version" then some (g.request .version)
    else if arg == "--verbose" then do readFor? fuel (← g.takeVerbose?) rest
    else if arg == "--log-json" then
      if g.logJson then none else readFor? fuel { g with logJson := true } rest
    else if arg == "--config" || arg.startsWith "--config=" then do
      let (path, rest) ← valueOf? "--config" args
      readFor? fuel (← g.takeConfig? path) rest
    else if looksLikeOption arg && !arg.startsWith "--" then do
      match ← readShort? g rest (arg.toList.drop 1) with
      | .request command => some (g.request command)
      | .options g rest => readFor? fuel g rest
    else (readCommand? args).map g.request

/-- Reads the arguments of the program. -/
def read? (args : List String) : Option Request := readFor? (args.length + 1) {} args

/-- How the program or one of its commands is used. -/
def Topic.usage : Topic → String
  | .program =>
    "Resilient backend connectors\n\n" ++
    "Usage: switchboard [OPTIONS] <COMMAND>\n\n" ++
    "Commands:\n" ++
    "  validate  Validate configuration file\n" ++
    "  policies  Print effective per-connector policy configuration as YAML\n" ++
    "  schema    Print the configuration JSON schema\n" ++
    "  help      Print this message or the help of the given subcommand(s)\n\n" ++
    "Options:\n" ++
    "  -c, --config <CONFIG>  Path to configuration file [default: switchboard.yaml]\n" ++
    "  -v, --verbose          Enable verbose logging\n" ++
    "      --log-json         Log as JSON\n" ++
    "  -h, --help             Print help\n" ++
    "  -V, --version          Print version\n"
  | .validate =>
    "Validate configuration file\n\n" ++
    "Usage: switchboard validate\n\n" ++
    "Options:\n" ++
    "  -h, --help  Print help\n"
  | .policies =>
    "Print effective per-connector policy configuration as YAML\n\n" ++
    "Usage: switchboard policies [OPTIONS]\n\n" ++
    "Options:\n" ++
    "      --connector <CONNECTOR>  Only this connector type (http, queue, log, graph_query)\n" ++
    "  -h, --help                   Print help\n"
  | .schema =>
    "Print the configuration JSON schema\n\n" ++
    "Usage: switchboard schema [OPTIONS]\n\n" ++
    "Options:\n" ++
    "      --format <FORMAT>  Output format (json, yaml) [default: json]\n" ++
    "  -h, --help             Print help\n"
  | .help =>
    "Print this message or the help of the given subcommand(s)\n\n" ++
    "Usage: switchboard help [COMMAND]...\n\n" ++
    "Arguments:\n" ++
    "  [COMMAND]...  Print help for the subcommand(s)\n"

/-- The layers that a stack has, by name. -/
def layerNames (c : StackConfig) : List String :=
  [("bulkhead", c.bulkhead?.isSome), ("rate_limiter", c.rateLimiter?.isSome),
    ("retry", c.retries?.isSome), ("circuit_breaker", c.breaker?.isSome),
    ("time_limiter", c.timeLimiter?.isSome)].filterMap fun (name, there) =>
      if there then some name else none

/-- What is reported about the connector of a kind. -/
def connectorLines (c : Configuration) (t : ConnectorType) (s : ConnectorSettings) : List String :=
  [s!"  {t.name} " ++ (if s.enabled then "[enabled]" else "[disabled]")] ++
  s.endpoint?.toList.map (s!"    Endpoint: {·}") ++
  s.datacenter?.toList.map (s!"    Datacenter: {·}") ++
  ["    Policies: " ++ String.intercalate ", " (layerNames (c.policyFor t))]

/-- The report on a valid configuration. -/
def reportLines (c : Configuration) : List String :=
  ["✓ Configuration valid!", "", s!"Version: {c.version}", "", "Connectors:"] ++
  (if c.mentioned.isEmpty then ["  (none configured, defaults apply to every type)"] else []) ++
  (c.mentioned.flatMap fun (t, s) => connectorLines c t s) ++
  ["", "Pipeline:", s!"  Max attempts: {c.pipeline.maxAttempts}",
    s!"  Retry entry: {c.pipeline.retryEntry.label}",
    "  Non-retryable stages: " ++
      String.intercalate ", " (c.pipeline.nonRetryable.map (·.name))]

/-- The policies in effect for some kinds, as a document. -/
def policiesNode (c : Configuration) (kinds : List ConnectorType) : Node :=
  .record (kinds.map fun t => (t.name, (Section.settings (c.resolved t)).node))

mutual

/-- A JSON value as a document. -/
def nodeOfJson : Json → Node
  | .text s => .quoted s
  | .list items => .sequence (nodesOfItems items)
  | .object members => .mapping (nodesOfMembers members)
  | v => .plain v.compact

/-- Items as nodes. -/
def nodesOfItems : List Json → List Node
  | [] => []
  | v :: rest => nodeOfJson v :: nodesOfItems rest

/-- Members as nodes. -/
def nodesOfMembers : List (String × Json) → List (Node × Node)
  | [] => []
  | (name, v) :: rest => (.quoted name, nodeOfJson v) :: nodesOfMembers rest

end

/-- Prints the schema in a format. -/
def printSchema (format : String) : Outcome :=
  if format == "json" then ⟨0, Schema.root.pretty ++ "\n", none⟩
  else if format == "yaml" then ⟨0, write (nodeOfJson Schema.root) ++ "\n", none⟩
  else ⟨1, "", some s!"Error: Unknown format: {format} (use json or yaml)"⟩

/-- Answers a command about a configuration. -/
def answer (c : Configuration) : Command → Outcome
  | .validate => ⟨0, String.join ((reportLines c).map (· ++ "\n")), none⟩
  | .policies kind? => ⟨0, write (policiesNode c (kind?.elim ConnectorType.all ([·]))), none⟩
  | _ => ⟨0, "", none⟩

/-- Runs a request, given the text of its configuration file if there is one. -/
def respond (r : Request) (file? : Option String) (env : Environment) : Outcome :=
  match r.command with
  | .help topic => ⟨0, topic.usage, none⟩
  | .version => ⟨0, s!"{program} {version}\n", none⟩
  | .schema format => printSchema format
  | command =>
    match file?.bind fun text => (Configuration.ofText env text).toOption with
    | none => ⟨1, "", some s!"Error: Failed to load config from {r.config}"⟩
    | some c => answer c command

/-- The first line of what a run complains with, without what ends it. -/
def Outcome.firstLine? (o : Outcome) : Option String :=
  o.complaint?.map fun text =>
    let line := text.toList.takeWhile (· != '\n')
    String.ofList (if line.getLast? == some '\r' then line.dropLast else line)

/-- Runs the program. Arguments that make no sense end it with code two. -/
def run (args : List String) (files : String → Option String) (env : Environment) : Outcome :=
  match read? args with
  | none => ⟨2, "", none⟩
  | some r => respond r (files r.config) env

end GuardedDispatch.CommandLine
