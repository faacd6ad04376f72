/-! What the arguments of the program ask for. -/
namespace Tether

structure Options where
  file : Option String := none
  history : Option String := none
  noHistory : Bool := false
  logFile : Option String := none
  deriving DecidableEq, Repr

inductive Invocation where
  | start (options : Options)
  | version
  | help
  | misuse
  deriving DecidableEq, Repr

inductive Argument where
  /-- Two hyphens: what follows are no options. -/
  | separator
  /-- A long option, and the value after an equals sign. -/
  | long (name : List Char) (value : Option (List Char))
  /-- A short option, or several of them. -/
  | short (name : Char)
  | plain (text : String)
  deriving DecidableEq, Repr

def Argument.ofString (arg : String) : Argument :=
  match arg.toList with
  | ['-', '-'] => .separator
  | '-' :: '-' :: cs =>
    .long (cs.takeWhile (· != '='))
      (match cs.dropWhile (· != '=') with
        | [] => none
        | _ :: value => some value)
  | '-' :: c :: _ => .short c
  | _ => .plain arg

namespace Options

/-- Sets an option that has a value and is given at most once. The value is not empty. -/
def put? (o : Options) (name : List Char) (value : String) : Option Options :=
  if value = "" then none
  else if name = "history".toList then
    if o.history.isSome then none else some { o with history := some value }
  else if name = "log-file".toList then
    if o.logFile.isSome then none else some { o with logFile := some value }
  else none

def putFile? (o : Options) (file : String) : Option Options :=
  if file = "" || o.file.isSome then none else some { o with file := some file }

def finish (o : Options) : Invocation :=
  if o.noHistory && o.history.isSome then .misuse else .start o

def readFiles (o : Options) : List String → Invocation
  | [] => o.finish
  | arg :: args =>
    match o.putFile? arg with
    | some o => readFiles o args
    | none => .misuse

/-- Reads the arguments from left to right; the first one that settles the matter counts. The value
of an option stands after an equals sign, or is the next argument. -/
def read (o : Options) : List String → Invocation
  | [] => o.finish
  | arg :: args =>
    match Argument.ofString arg with
    | .separator => o.readFiles args
    | .plain file =>
      match o.putFile? file with
      | some o => read o args
      | none => .misuse
    | .short c => if c = 'V' then .version else if c = 'h' then .help else .misuse
    | .long name (some value) =>
      match o.put? name (String.ofList value) with
      | some o => read o args
      | none => .misuse
    | .long name none =>
      if name = "version".toList then .version
      else if name = "help".toList then .help
      else if name = "no-history".toList then
        if o.noHistory then .misuse else read { o with noHistory := true } args
      else match args with
        | [] => .misuse
        | value :: args =>
          match Argument.ofString value, o.put? name value with
          | .plain _, some o => read o args
          | _, _ => .misuse

end Options

def Invocation.ofArguments (args : List String) : Invocation := Options.read {} args

/-- The path of the history if none is given: below the directory for data, which is set or else
below the home directory. -/
def defaultHistory? (data home : Option String) : Option String :=
  match data.filter (·.toList.head? = some '/'), home with
  | some d, _ => some (d ++ "/tether/repl_history")
  | none, some h => if h = "" then none else some (h ++ "/.local/share/tether/repl_history")
  | none, none => none

end Tether
