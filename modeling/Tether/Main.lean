import Tether.Screen.Pane
import Tether.Session.Update
import Tether.Startup.Launch

/-! The program on a system: files and the standard streams. The session takes its input a line at
a time, and what a line adds to the transcript is printed. -/
namespace Tether.Program

def systemText : IO.Error → String
  | .userError text => text
  | .unexpectedEof => "unexpected end of file"
  | .alreadyExists _ n text | .interrupted _ n text | .noFileOrDirectory _ n text
  | .invalidArgument _ n text | .permissionDenied _ n text | .resourceExhausted _ n text
  | .inappropriateType _ n text | .noSuchThing _ n text | .otherError n text
  | .resourceBusy n text | .resourceVanished n text | .unsupportedOperation n text
  | .hardwareFault n text | .unsatisfiedConstraints n text | .illegalOperation n text
  | .protocolError n text | .timeExpired n text => text ++ " (os error " ++ toString n ++ ")"

def attempt {α : Type} (act : IO α) : IO (Except String α) := do
  try return .ok (← act) catch e => return .error (systemText e)

partial def readAll (input : IO.FS.Stream) (sofar : ByteArray) : IO ByteArray := do
  let chunk ← input.read 65536
  if chunk.isEmpty then return sofar
  readAll input (sofar ++ chunk)

def readFile (path : String) : IO ByteArray := do (← IO.FS.Handle.mk path .read).readBinToEnd

def readOrigin : Origin → IO ByteArray
  | .file path => readFile path
  | .input => do readAll (← IO.getStdin) .empty

def readState (path : String) : IO FileState := do
  try
    let bytes ← readFile path
    return match String.fromUTF8? bytes with
      | some text => .text text.toList
      | none => .binary bytes
  catch
    | .inappropriateType .. => return .directory
    | _ => return .missing

def system : System IO where
  createLog path := attempt (IO.FS.writeFile path "")
  read origin := attempt (readOrigin origin)
  openHistory
    | none => return .inMemory
    | some path => return .opened ⟨path, ← readState path⟩

def saveHistory (h : History) : IO Unit := do
  match h.file with
  | some ⟨path, .text cs⟩ =>
    IO.FS.createDirAll (String.ofList (Text.join ['/'] (Text.parts ['/'] path.toList).dropLast))
    IO.FS.writeFile path (String.ofList cs)
  | some ⟨path, .binary bytes⟩ => IO.FS.writeBinFile path bytes
  | _ => return

/-- The keys of a line and the one that submits it. -/
def keysOf (line : String) : List Message :=
  (line.toList.filter (· != '\n')).map (.key <| .char ·) ++ [.key ⟨.enter, false, false, false⟩]

/-- Answers a request to edit: no editor can be run from here. -/
def refuseEdit (s : Session) : Session := s.finishEdit (.error (.io "no editor is available"))

partial def converse (input output : IO.FS.Stream) (s : Session) : IO Unit := do
  output.putStr (String.ofList (Screen.prompt s.mode).text)
  output.flush
  let line ← input.getLine
  if line.isEmpty then return
  let (next, requests) := (s.run? (keysOf line)).getD (s, [])
  let next := if requests.contains .edit then refuseEdit next else next
  for entry in next.transcript.drop s.transcript.length do
    output.putStrLn (entry.output.getD "")
  match ← attempt (saveHistory next.history) with
  | .error cause => output.putStrLn ("warning: history file: " ++ cause)
  | .ok _ => pure ()
  if requests.contains .quit then return
  converse input output next

end Tether.Program

def main (args : List String) : IO UInt32 := do
  let home := Tether.defaultHistory? (← IO.getEnv "XDG_DATA_HOME") (← IO.getEnv "HOME")
  let home := (← IO.getEnv "TETHER_HISTORY") <|> home
  match ← Tether.launch Tether.Program.system home args with
  | .error e =>
    (← IO.getStdout).putStr e.output
    (← IO.getStderr).putStr e.errors
    return e.code.toUInt32
  | .ok s =>
    Tether.Program.converse (← IO.getStdin) (← IO.getStdout) s
    return 0
