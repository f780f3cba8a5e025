import AccountServer.Program.Launch

/-!
# The command line

Reads arguments, variables and files, and says how the launch ends. Listening is not part of it: a
site that is ready is announced, and that is all.
-/

namespace AccountServer

/-- The variables of the environment, which the system shows as one file. -/
def readVariables : IO (List (String × String)) := do
  try
    let bytes ← IO.FS.readBinFile "/proc/self/environ"
    let text := String.ofList (Text.decodeLossy bytes.toList)
    return (Text.splitAll '\x00' text.toList).filterMap fun line =>
      (Text.splitFirst '=' line).map fun (name, value) => (String.ofList name, String.ofList value)
  catch _ => return []

/-- The texts of those files that can be read. -/
def readFiles (paths : List String) : IO (List (String × String)) :=
  paths.filterMapM fun (path : String) => do
    try
      let text ← IO.FS.readFile path
      return some (path, text)
    catch _ => return none

/-- What the program finds around it. -/
def readPremises (arguments : List String) : IO Premises := do
  let environment ← readVariables
  let named := match Arguments.read (environment.lookup "JELLY_CONFIG") arguments with
    | .run { config := some path, .. } => path
    | _ => Launch.defaultConfig
  let files ← readFiles (Settings.candidates named)
  let random ← IO.getRandomBytes 64
  let around (n : Nat) : Surroundings :=
    { now := default
      draws := fun i => .ofRandom (.ofNat 128 (Crypto.ofBigEndian random.toList + n + i))
      salt := random.toList.take 16
      random := 0 }
  let secret := Text.hexDigits 48 (Crypto.ofBigEndian random.toList)
  return ⟨fun path => files.lookup path, environment, {}, Text.utf8 secret, around⟩

/-- Prints how a launch ended. -/
def report (environment : List (String × String)) : Launch → IO Unit
  | .misuse => IO.eprintln "error: unexpected arguments\n\nFor more information, try '--help'."
  | .help => IO.print (Launch.helpText (environment.lookup "JELLY_CONFIG"))
  | .version => IO.print Launch.versionText
  | .aborted => IO.eprintln "aborted"
  | .failed error cause => do
    IO.eprintln ("Error: " ++ error)
    if let some cause := cause then IO.eprintln ("\nCaused by:\n    " ++ cause)
  | .ready _ bind => IO.println ("ready to listen on " ++ bind)

end AccountServer

open AccountServer in
/-- Launches the server. -/
def main (arguments : List String) : IO UInt32 := do
  let premises ← readPremises arguments
  let result := launch premises arguments
  report premises.environment result
  return .ofNat result.exitCode
