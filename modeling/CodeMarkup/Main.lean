import CodeMarkup.Command.Run

/-!
# The command line

Runs the command in the world: with the arguments, the environment, the files and the
standard streams of the process.
-/

open CodeMarkup

/-- The bytes of a file, if it can be read. -/
def readBytes (path : String) : IO (Option ByteArray) := do
  try
    return some (← IO.FS.readBinFile path)
  catch _ =>
    return none

/-- The directory for the configurations of the user. -/
def configHome : IO (Option String) := do
  match ← IO.getEnv "XDG_CONFIG_HOME" with
  | some dir => if dir.startsWith "/" then return some dir else atHome
  | none => atHome
where
  /-- The directory for configurations in the home directory. -/
  atHome : IO (Option String) := do
    return (← IO.getEnv "HOME").map (· ++ "/.config")

/-- The bytes of the configuration of the user, if there is one. One that is there and cannot be
read has bytes that are no text. -/
def readOwnConfig : IO (Option ByteArray) := do
  match ← configHome with
  | none => return none
  | some dir =>
    try
      return some (← IO.FS.readBinFile (dir ++ "/spanlight/config.toml"))
    catch
      | .noFileOrDirectory .. => return none
      | _ => return some ⟨#[0xff]⟩

/-- The process as a host. -/
def processHost : Command.Host IO where
  configVariable := IO.getEnv "SPANLIGHT_CONFIG"
  ownConfig := readOwnConfig
  fileBytes := readBytes
  inputBytes := do (← IO.getStdin).readBinToEnd

/-- What is printed as a message. -/
def complaint : Command.Failure → String
  | .usage => "error: invalid arguments\n\nFor more information, try '--help'."
  | .work e => "Error: " ++ e.message

def main (args : List String) : IO UInt32 := do
  match ← Command.run processHost args with
  | .ok text =>
    IO.print (String.ofList text)
    return 0
  | .error f =>
    IO.eprintln (complaint f)
    return f.exitCode.toUInt32
