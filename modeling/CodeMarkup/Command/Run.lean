import CodeMarkup.Command.Arguments
import CodeMarkup.Config.Toml
import CodeMarkup.Frame.Json

/-!
# The command

`CodeMarkup.Command.run` does what its arguments ask for, and answers with the text
that is to be printed or with what went wrong. What it has to know about the world it
asks a host (`CodeMarkup.Command.Host`), and it asks for no more than it needs: the
document is read after the configuration, and not at all if only the languages are
listed.

The configuration is the one that the arguments name, or else the one that a variable
names, or else the one at the place where it is looked for, or else the default.
-/

namespace CodeMarkup.Command

/-- What the command can find out about the world. -/
structure Host (m : Type → Type) where
  /-- The value of the variable that names the file with the configuration. -/
  configVariable : m (Option String)
  /-- The bytes of the configuration at the place where it is looked for, if there is one. -/
  ownConfig : m (Option ByteArray)
  /-- The bytes of a file, if it can be read. -/
  fileBytes : String → m (Option ByteArray)
  /-- The bytes of the standard input. -/
  inputBytes : m ByteArray

/-- Why nothing is printed. -/
inductive Failure where
  /-- The arguments say nothing that makes sense. -/
  | usage
  /-- The work could not be done. -/
  | work (e : Error)
  deriving DecidableEq, Repr

/-- The number with which the command ends. -/
def Failure.exitCode : Failure → Nat
  | usage => 2
  | work _ => 1

/-- The answer to the question for the version. -/
def versionText : Text := "spanlight 0.1.0\n".toList

/-- The answer to the question for help. -/
def helpText : Text :=
  Text.join ['\n'] (List.map String.toList [
    "Highlight source code into HTML span markup",
    "",
    "Usage: spanlight [OPTIONS] [FILE]",
    "",
    "Arguments:",
    "  [FILE]  File to highlight (reads stdin when omitted)",
    "",
    "Options:",
    "  -l, --language <LANGUAGE>    Language identifier (inferred from the file extension)",
    "      --config <CONFIG>        Config file path [env: SPANLIGHT_CONFIG=]",
    "      --format <FORMAT>        Output format [default: html] [possible values: html, json]",
    "      --caret <CARET>          Caret offset in characters [default: 0]",
    "      --list-languages         List known language identifiers and exit",
    "      --log-level <LOG_LEVEL>  Log level (trace, debug, info, warn, error) [default: warn]",
    "  -h, --help                   Print help",
    "  -V, --version                Print version",
    ""])

/-- The line for an identifier: the name of its language is added if it is another one. -/
def languageLine (r : Registry) (id : String) : Text :=
  let name := (r.nameOf? id).getD id
  id.toList ++ (if name = id then [] else " -> ".toList ++ name.toList) ++ ['\n']

/-- The list of the languages. -/
def languageList (r : Registry) : Text := r.identifiers.flatMap (languageLine r)

/-- The language of the document: the one that is asked for, or else the one of the file. -/
def languageOf (o : Options) (r : Registry) : String :=
  (o.language.or (o.file.bind r.nameForFile?)).getD ""

/-- What is printed for a document. -/
def document (o : Options) (h : Highlighter) (text : Text) : Text :=
  let language := languageOf o h.registry
  let shown :=
    match o.format.getD .html with
    | .html => (h.highlight text language).1
    | .json => (Frame.render h text language (o.caret.getD 0)).1.toJson
  shown ++ ['\n']

variable {m : Type → Type} [Monad m]

/-- The configuration at a path, or else the one of the host, or else the default. -/
def loadConfig (host : Host m) (path : Option String) : m (Except Error Config) := do
  match path with
  | some path => return Config.ofFile (← host.fileBytes path)
  | none =>
    match ← host.ownConfig with
    | some bytes => return Config.ofFile (some bytes)
    | none => return .ok .default

/-- The text of the document. -/
def readDocument (host : Host m) (file : Option String) : m (Except Error Text) := do
  let bytes ←
    match file with
    | some path => host.fileBytes path
    | none => some <$> host.inputBytes
  match bytes.bind String.fromUTF8? with
  | some s => return .ok s.toList
  | none => return .error .inaccessibleFile

/-- Does the work with a configuration that has been read. -/
def work (host : Host m) (o : Options) (c : Config) : m (Except Error Text) := do
  match c.highlighter with
  | .error e => return .error e
  | .ok h =>
    if o.listLanguages then return .ok (languageList h.registry)
    else
      let text ← readDocument host o.file
      return text.map (document o h)

/-- Does what arguments ask for. -/
def run (host : Host m) (args : List String) : m (Except Failure Text) := do
  match Request.ofArguments? args with
  | none => return .error .usage
  | some .help => return .ok helpText
  | some .version => return .ok versionText
  | some (.work o) =>
    let path := o.config.or (← host.configVariable)
    if path = some "" then return .error .usage
    else
      match ← loadConfig host path with
      | .error e => return .error (.work e)
      | .ok c =>
        match ← work host o c with
        | .error e => return .error (.work e)
        | .ok t => return .ok t

end CodeMarkup.Command
