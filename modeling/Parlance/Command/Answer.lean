import Parlance.Command
import Parlance.Console.Grid
import Parlance.Program.Json
import Parlance.Session
import Parlance.Settings.File
import Parlance.Value.Listing

/-!
Answers to commands: what they write and the code they end with. Lines that a program emits come
out as they are, all else as markup. How either is shown is up to the screen.
-/

namespace Parlance

/-- What breaks a command off without a report. -/
inductive Crash where
  /-- A program ran without bound at the prompt. -/
  | unboundedRun
  /-- A program reached for a scope that is gone. -/
  | lostScope (fault : Arena.Fault)
  /-- A module is to be recorded that has no name. -/
  | namelessModule
  | nullInPath
  | overlongNumber
  /-- A tag of a grid closes none that is open. -/
  | unmatchedTag
  deriving DecidableEq, Repr

def Crash.ofFault? : Settings.Fault → Option Crash
  | .unreadable _ .nullInPath => some .nullInPath
  | .overlongNumber _ => some .overlongNumber
  | _ => none

/-- What is said of a crash outside the answer. -/
def Crash.text : Crash → String
  | .unboundedRun => "the program runs without bound"
  | .lostScope fault => "no such scope: " ++ fault.message
  | .namelessModule => "a module has no name"
  | .nullInPath => "a path holds a null"
  | .overlongNumber => "a number of the settings has too many digits"
  | .unmatchedTag => "a name holds a closing tag without an opening one"

inductive Ending where
  | success
  | failure
  | misuse
  | crash (cause : Crash)
  deriving DecidableEq, Repr, Inhabited

def Ending.code : Ending → Nat
  | .success => 0
  | .failure | .crash _ => 1
  | .misuse => 2

/-- What puts texts before the user. -/
structure Screen where
  /-- What is shown for markup. -/
  print : String → String
  /-- The markup that stands for a text as it is. -/
  escape : String → String
  /-- What is shown for a line as it is. -/
  echo : String → String
  /-- What is shown for a grid, if every tag in it closes one that is open. -/
  printGrid? : Console.Grid → Option String

def Screen.console : Screen where
  print := Console.print
  escape := Console.Markup.escape
  echo := Console.echo
  printGrid? := Console.printGrid?

structure Answer where
  output : String
  ending : Ending
  deriving DecidableEq, Repr, Inhabited

namespace Answer

def success (output : String) : Answer := ⟨output, .success⟩

def crash (cause : Crash) : Answer := ⟨"", .crash cause⟩

def after (output : String) (answer : Answer) : Answer :=
  { answer with output := output ++ answer.output }

/-- The output as a transcript keeps it, where a carriage return before a line feed is dropped. -/
def transcript (answer : Answer) : String := String.ofList (Text.shortEnds answer.output.toList)

section

variable (screen : Screen)

def errorLine (message : String) : String :=
  screen.print ("[red]Error:[/red] " ++ screen.escape message)

def failure (message : String) : Answer := ⟨errorLine screen message, .failure⟩

/-- What comes of settings that cannot be used. -/
def ofFault (fault : Settings.Fault) : Answer :=
  match Crash.ofFault? fault with
  | some cause => .crash cause
  | none => .failure screen fault.message

def ofGrid (grid : Console.Grid) : Answer :=
  match screen.printGrid? grid with
  | some output => .success output
  | none => .crash .unmatchedTag

def resultLine (value : Value) : String :=
  if value.isVoid then ""
  else screen.print ("[dim]=>[/dim] " ++ screen.escape value.toText)

def emittedLines (events : List Event) : String :=
  String.join ((events.filterMap Event.line?).map screen.echo)

def ofFailure (failed : Failure) : Answer :=
  match failed.cause with
  | .unbounded => .failure screen "Maximum recursion depth exceeded"
  | .arena fault => .crash (.lostScope fault)
  | _ => .failure screen failed.text

end

end Answer

namespace Command

def programVersion : String := "0.3.0"

/-- Settings as a command asks for them: those of a file, strict at least if the command says so. -/
def chooseSettings (folder : Folder) (explicit : Option Path) (start : Path) (strict : Bool) :
    Except Settings.Fault Settings :=
  (Settings.choose folder explicit start).map fun settings =>
    { settings with strict := settings.strict || strict }

/-- A session where every module of the settings is registered and answers nothing; there is none
if a module has no name. -/
def recordingSession? (settings : Settings) : Option Session :=
  settings.capabilities.moduleNames.foldlM
    (fun session name => (session.register name (some (.constant .null))).toOption)
    (Session.ofSettings settings)

/-- Calls in the order of the modules that served them. -/
def byModule (events : List Event) : List Request :=
  ((events.filterMap Event.served?).mergeSort fun a b => a.1 ≤ b.1).map Prod.snd

section

variable (screen : Screen)

def callsGrid (requests : List Request) : Console.Grid where
  title := "Module Calls"
  columns := [(.left, "Module"), (.left, "Method"), (.left, "Arguments")]
  rows := requests.map fun request =>
    let listings := request.arguments.map fun argument => argument.toHost.listing
    [request.module, request.method, screen.escape (", ".intercalate listings)]

def callsReport (events : List Event) : Answer :=
  match byModule events with
  | [] => .success (screen.print "[dim]No module calls recorded[/dim]")
  | requests => .ofGrid screen (callsGrid screen requests)

/-- Runs a source and shows what it emits, its result and, if asked, the calls of modules. -/
def execute (settings : Settings) (recordModules : Bool) (source sourceName : String) : Answer :=
  let session :=
    if recordModules then recordingSession? settings else some (.ofSettings settings)
  match session with
  | none => .crash .namelessModule
  | some session =>
      let run := session.execute source (some sourceName)
      .after (Answer.emittedLines screen run.events) <|
        match run.result with
        | .error failed => .ofFailure screen failed
        | .ok value =>
            .after (Answer.resultLine screen value) <|
              if recordModules then callsReport screen run.events else .success ""

def runSource (folder : Folder) (options : Options) (start : Path) (source sourceName : String) :
    Answer :=
  match chooseSettings folder options.settings start options.strict with
  | .error fault => .ofFault screen fault
  | .ok settings => execute screen settings options.recordModules source sourceName

def withFile (folder : Folder) (file : Path) (next : String → Answer) : Answer :=
  match folder.read file with
  | .error .nullInPath => .crash .nullInPath
  | .error fault => .failure screen (fault.message file)
  | .ok source => next source

def tokensGrid (file : Path) (source : String) : Console.Grid where
  title := "Tokens: " ++ file.name
  columns := [(.right, "Line"), (.right, "Col"), (.left, "Kind"), (.left, "Lexeme")]
  rows := (Token.scan source).map fun token =>
    [toString token.place.line, toString token.place.column, token.kind.name,
      screen.escape token.lexeme]

def keywordsGrid : Console.Grid where
  title := "Azalea Keywords"
  columns := [(.left, "Canonical"), (.left, "Synonyms")]
  rows := Keyword.all.map fun keyword =>
    [keyword.name, screen.escape (" ".intercalate keyword.spellings)]

def showProgram (folder : Folder) (file : Path) (strict : Bool) (source : String) : Answer :=
  match chooseSettings folder none file.parent strict with
  | .error fault => .ofFault screen fault
  | .ok settings =>
      match ((Session.ofSettings settings).parse source (some file.text)).1 with
      | .error failed => .failure screen failed.text
      | .ok program => .success (screen.echo (program.toNode.json ""))

end

/-- The path of the working folder. -/
def here : Path := ⟨.working, []⟩

/-! ### The prompt -/

def promptText : String := "az> "

/-- What comes of a line at the prompt: what it writes, and the session after it if the prompt goes
on, or how it ends. -/
structure Reply where
  output : String
  next : Ending ⊕ Session

def isQuit (line : List Char) : Bool := line = ":quit".toList || line = ":q".toList

/-- A program that runs without bound or loses a scope breaks the prompt off; any other failure is
reported. -/
def reply (screen : Screen) (session : Session) (line : String) : Reply :=
  let content := Unicode.trim line.toList
  if isQuit content then ⟨"", .inl .success⟩
  else if content.isEmpty then ⟨"", .inr session⟩
  else
    let run := session.execute line (some "<repl>")
    let emitted := Answer.emittedLines screen run.events
    match run.result with
    | .ok value => ⟨emitted ++ Answer.resultLine screen value, .inr run.session⟩
    | .error failed =>
        match failed.cause with
        | .unbounded => ⟨emitted, .inl (.crash .unboundedRun)⟩
        | .arena fault => ⟨emitted, .inl (.crash (.lostScope fault))⟩
        | _ => ⟨emitted ++ Answer.errorLine screen failed.text, .inr run.session⟩

/-- Answers the lines of the input, each behind a prompt, up to the one that ends it. -/
def converse (screen : Screen) (session : Session) : List String → Answer
  | [] => .success promptText
  | line :: rest =>
      let said := reply screen session line
      .after (promptText ++ said.output) <|
        match said.next with
        | .inl ending => ⟨"", ending⟩
        | .inr session => converse screen session rest

def promptSettings (folder : Folder) (strict : Bool) : Except Settings.Fault Settings :=
  chooseSettings folder none here strict

def inputLines (input : String) : List String :=
  let lines := (Text.lineFeeds input.toList).splitOn '\n'
  (if lines.getLast? = some [] then lines.dropLast else lines).map String.ofList

def answer (folder : Folder) (input : String) (command : Command) (screen : Screen := .console) :
    Answer :=
  match command with
  | .version => .success (screen.echo ("Azalea version " ++ programVersion))
  | .run file options =>
      withFile screen folder file fun source =>
        runSource screen folder options file.parent source file.text
  | .eval source options => runSource screen folder options here source "<eval>"
  | .tokens file =>
      withFile screen folder file fun source => .ofGrid screen (tokensGrid screen file source)
  | .ast file strict => withFile screen folder file (showProgram screen folder file strict)
  | .keywords => .ofGrid screen (keywordsGrid screen)
  | .repl strict =>
      match promptSettings folder strict with
      | .error fault => .ofFault screen fault
      | .ok settings => converse screen (.ofSettings settings) (inputLines input)

/-- The places that an answer may depend on. -/
def sources (working : List String) : Command → List (List String)
  | .version | .keywords => []
  | .run file options => file.resolve working :: chosen options file.parent
  | .eval _ options => chosen options here
  | .tokens file => [file.resolve working]
  | .ast file _ => file.resolve working :: near file.parent
  | .repl _ => near here
where
  near (start : Path) : List (List String) :=
    let above := Folder.upward (start.resolve working)
    above ++ above.map (· ++ [Settings.fileName])
  chosen (options : Options) (start : Path) : List (List String) :=
    match options.settings with
    | some path => [path.resolve working]
    | none => near start

def Refusal.answer : Refusal → Answer
  | .misspelt => ⟨"", .misuse⟩
  | .nullInPath => .crash .nullInPath

end Command

end Parlance
