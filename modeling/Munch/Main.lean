import Munch.CommandLine

/-! # The program

Reads the files that a request names, runs it, and writes what it leaves. -/
set_option autoImplicit false

namespace Munch

def FileFault.ofError (error : IO.Error) : FileFault :=
  match error with
  | .noFileOrDirectory .. => .notFound
  | .inappropriateType _ 20 _ => .notDirectory
  | .inappropriateType .. => .isDirectory
  | .invalidArgument _ 36 _ => .nameTooLong
  | _ => .other (toString error).toList

def readFile (file : Text) : IO (Except FileFault ByteArray) := do
  try
    return .ok (← IO.FS.readBinFile (String.ofList file))
  catch error =>
    return .error (.ofError error)

def Request.files : Request → List Text
  | .version => []
  | .command asked => asked.options.settingsFile.toList ++ asked.files

def loadFiles (names : List Text) : IO Files := do
  let contents ← names.mapM fun name => do return (name, ← readFile name)
  return fun file => (contents.lookup file).getD (.error .notFound)

end Munch

def main (arguments : List String) : IO UInt32 := do
  match Munch.Request.ofArguments? {} (arguments.map String.toList) with
  | none =>
    (← IO.getStderr).putStrLn "error: expected tokens [--json] FILES... or check FILES..."
    return 2
  | some request =>
    let environment ← IO.getEnv "RUST_LOG"
    let files ← Munch.loadFiles request.files
    let ending := request.run (environment.map String.toList) files
    (← IO.getStdout).putStr (String.ofList ending.output)
    (← IO.getStderr).putStr (String.ofList ending.errors)
    return UInt32.ofNat ending.code
