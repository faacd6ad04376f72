import Tether.Complete.Fuzzy
import Tether.Session.State
import Tether.Startup.Options
import Tether.Startup.Origin

/-! The start of the program: the log is opened, then the program is read, and only if it is valid
the history. Every failure ends the program before there is a session. -/
namespace Tether

/-- What the start asks of the system. Failures are given in the system's own words. -/
structure System (m : Type → Type) where
  createLog : String → m (Except String Unit)
  read : Origin → m (Except String ByteArray)
  openHistory : Option String → m History

structure Exit where
  output : String
  errors : String
  code : Nat
  deriving DecidableEq, Repr

namespace Exit

def program : String := "tether-repl"

def version : Exit := ⟨program ++ " 0.4.0\n", "", 0⟩

def usage : String := "Usage: " ++ program ++ " [OPTIONS] [FILE]\n"

def help : Exit where
  output := "Interactive session for Tether bindings\n\n" ++ usage ++ "\nOptions:\n" ++
    "      --history <PATH>   History file\n" ++
    "      --no-history       Keep history in memory only\n" ++
    "      --log-file <PATH>  Write logs to this file\n" ++
    "  -h, --help             Print help\n" ++
    "  -V, --version          Print version\n"
  errors := ""
  code := 0

def misuse : Exit := ⟨"", usage, 2⟩

def failed (message : String) : Exit := ⟨"", program ++ ": " ++ message ++ "\n", 1⟩

end Exit

def Session.new (d : Document) (h : History) (name : String) (width : Nat) : Session :=
  .initial d h name width Complete.Fuzzy.search?

section
variable {m : Type → Type} [Monad m]

def Session.start (sys : System m) (origin : Option Origin) (history : Option String)
    (width : Nat) : m (Except Failure Session) := do
  match origin with
  | none => return .error .noSource
  | some origin =>
    match Document.load origin (← sys.read origin) with
    | .error e => return .error e
    | .ok d => return .ok (.new d (← sys.openHistory history) origin.displayName width)

def usualWidth : Nat := 80

def Options.openLog (sys : System m) (o : Options) : m (Except Exit Unit) := do
  match o.logFile with
  | none => return .ok ()
  | some path =>
    return (← sys.createLog path).mapError fun cause =>
      .failed ("cannot open log file " ++ path ++ ": " ++ cause)

/-- The session that the options ask for. `home` is where the history is kept if they do not say. -/
def Options.start (sys : System m) (home : Option String) (o : Options) :
    m (Except Exit Session) := do
  match ← o.openLog sys with
  | .error e => return .error e
  | .ok _ =>
    let history := if o.noHistory then none else o.history <|> home
    let session ← Session.start sys (o.file.map Origin.ofArgument) history usualWidth
    return session.mapError fun e => .failed e.message

def launch (sys : System m) (home : Option String) (args : List String) :
    m (Except Exit Session) :=
  match Invocation.ofArguments args with
  | .version => pure (.error Exit.version)
  | .help => pure (.error Exit.help)
  | .misuse => pure (.error Exit.misuse)
  | .start o => o.start sys home

end

end Tether
