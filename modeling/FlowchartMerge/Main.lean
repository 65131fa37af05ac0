import FlowchartMerge.Command.Run

/-!
# The program

Reads the files that a command names, computes what remains to be done, and does it.
No other program is run from here: git answers as it does where there is no repository.
-/

set_option autoImplicit false

namespace FlowchartMerge

def errorNumber (code : UInt32) : Nat := min code.toNat (4294967296 - code.toNat)

def fileError : IO.Error → FileError
  | .noFileOrDirectory _ _ _ => .notFound
  | .permissionDenied _ _ _ => .notPermitted
  | .inappropriateType _ code _ => if errorNumber code = 21 then .isDirectory else .notDirectory
  | .invalidArgument _ code details => numbered code details
  | .resourceExhausted _ code details => numbered code details
  | e => .other e.toString.toList
where
  numbered (code : UInt32) (details : String) : FileError :=
    if errorNumber code = 36 then .nameTooLong else .other details.toList

def readFile (path : Text) : IO (Except FileError ByteArray) := do
  try
    return .ok (← IO.FS.readBinFile (String.ofList path))
  catch e => return .error (fileError e)

def writeFile (path content : Text) : IO (Except FileError Unit) := do
  try
    IO.FS.writeFile (String.ofList path) (String.ofList content)
    return .ok ()
  catch e => return .error (fileError e)

def canonicalPath (path : Text) : IO (Except FileError Text) := do
  try
    return .ok (← IO.FS.realPath (String.ofList path)).toString.toList
  catch e => return .error (fileError e)

def answerOf {α : Type} (answers : List (Text × Except FileError α)) (path : Text) :
    Except FileError α :=
  ((answers.find? fun e => e.1 == path).map Prod.snd).getD (.error .notFound)

def observe (c : Command) : IO World := do
  let contents ← c.files.mapM fun path => return (path, ← readFile path)
  let paths ← c.files.mapM fun path => return (path, ← canonicalPath path)
  let stdin ← if c.readsStdin then (← IO.getStdin).readBinToEnd else pure .empty
  return {
    read := answerOf contents
    stdin := stdin
    git := ⟨answerOf paths, fun _ => .ok Folder.noRepository⟩ }

def Report.print (r : Report) : IO UInt32 := do
  (← IO.getStderr).putStr (String.ofList r.stderr)
  (← IO.getStdout).putStr (String.ofList r.stdout)
  return r.exit.toUInt32

def Plan.carryOut : Plan → IO UInt32
  | .finish r => r.print
  | .save path content saved refused => do
    match ← writeFile path content with
    | .ok () => saved.print
    | .error e => (refused e).print

def runProgram (args : List String) : IO UInt32 := do
  match Invocation.ofArguments (args.map String.toList) with
  | .error stop => stop.report.print
  | .ok i => (i.plan (← observe i.command)).carryOut

end FlowchartMerge

def main (args : List String) : IO UInt32 := FlowchartMerge.runProgram args
