import Parlance.Command.Answer

/-!
The command line. It collects the files that a command may read and leaves the rest to the
command's answer; only the prompt reads its input line by line.
-/

namespace Parlance.Main

def loadPlace (folder : Folder) (place : List String) : IO Folder := do
  let path := (← IO.currentDir) / ("/" ++ "/".intercalate place)
  if ← path.isDir then
    return { folder with folders := place :: folder.folders }
  else if ← path.pathExists then
    return { folder with files := (place, ← IO.FS.readFile path) :: folder.files }
  else return folder

def loadFolder (command : Command) : IO Folder := do
  let working := (Path.ofText (← IO.currentDir).toString).steps
  (command.sources working).foldlM loadPlace ⟨working, [], []⟩

def reportCrash (ending : Ending) : IO UInt32 := do
  if let .crash cause := ending then IO.eprintln cause.text
  return UInt32.ofNat ending.code

/-- Answers one line after the other until the prompt ends. -/
partial def converseLive (input : IO.FS.Stream) (session : Session) : IO Ending := do
  IO.print Command.promptText
  (← IO.getStdout).flush
  let line ← input.getLine
  if line.isEmpty then return .success
  else
    let said := Command.reply .console session (String.ofList (line.toList.filter (· ≠ '\n')))
    IO.print said.output
    match said.next with
    | .inl ending => return ending
    | .inr session => converseLive input session

def write (answer : Answer) : IO UInt32 := do
  IO.print answer.output
  reportCrash answer.ending

end Parlance.Main

open Parlance Parlance.Main in
/-- Answers the command that the arguments spell and ends with its code. -/
def main (arguments : List String) : IO UInt32 := do
  match Command.ofArguments arguments with
  | .error refusal =>
      IO.eprintln "usage: (--version | run | eval | tokens | ast | keywords | repl) ..."
      write refusal.answer
  | .ok command =>
      let folder ← loadFolder command
      match command with
      | .repl strict =>
          match Command.promptSettings folder strict with
          | .error fault => write (.ofFault .console fault)
          | .ok settings =>
              reportCrash (← converseLive (← IO.getStdin) (.ofSettings settings))
      | command => write (command.answer folder "")
