import CodeMarkup.Scanner

/-!
# The arguments of the command

What the command is asked to do (`CodeMarkup.Command.Request`), and how its arguments
say it (`CodeMarkup.Command.Request.ofArguments?`).

An option has its value behind an equals sign or in the next argument, which must not
look like an option itself. No option may be given twice. Behind two hyphens there are
no more options. The arguments are read one after the other, so a question for the
version is answered if all before it is in order.
-/

namespace CodeMarkup.Command

/-- What is written for a document. -/
inductive Format where
  /-- The markup. -/
  | html
  /-- The frame, as JSON. -/
  | json
  deriving DecidableEq, Repr

/-- The options that have a value. -/
inductive Opt where
  /-- The language of the document. -/
  | language
  /-- The file with the configuration. -/
  | config
  /-- What is written. -/
  | format
  /-- The number of characters before the caret. -/
  | caret
  /-- What is worth a message. -/
  | logLevel
  deriving DecidableEq, Repr

/-- What arguments say. -/
structure Options where
  /-- The file with the document. -/
  file : Option String := none
  /-- The language of the document. -/
  language : Option String := none
  /-- The file with the configuration. -/
  config : Option String := none
  /-- What is written. -/
  format : Option Format := none
  /-- The number of characters before the caret. -/
  caret : Option Nat := none
  /-- What is worth a message. -/
  logLevel : Option String := none
  /-- Whether the identifiers of the languages are listed, and nothing else is done. -/
  listLanguages : Bool := false
  deriving DecidableEq, Repr

/-- What the command is asked to do. -/
inductive Request where
  /-- To say what it is for. -/
  | help
  /-- To say its version. -/
  | version
  /-- To do its work. -/
  | work (o : Options)
  deriving DecidableEq, Repr

/-! ### Values -/

/-- The value of something that has none yet. -/
def once {α : Type} (old : Option α) (new : α) : Option (Option α) :=
  match old with
  | none => some (some new)
  | some _ => none

/-- The path that an argument is. -/
def path? (arg : String) : Option String := if arg = "" then none else some arg

/-- The format that an argument names. -/
def format? : String → Option Format
  | "html" => some .html
  | "json" => some .json
  | _ => none

/-- The number of 64 bits that an argument is, perhaps behind a plus. -/
def caret? (arg : String) : Option Nat :=
  let digits :=
    match arg.toList with
    | '+' :: ds => ds
    | ds => ds
  if digits ≠ [] ∧ digits.all Char.isDigit then
    let n := Nat.ofDigitChars 10 digits 0
    if n < 0x10000000000000000 then some n else none
  else none

namespace Options

/-- The options with the value of one more, if it is new and the value is one. -/
def give (o : Options) (opt : Opt) (arg : String) : Option Options :=
  match opt with
  | .language => (once o.language arg).map fun v => { o with language := v }
  | .config => ((path? arg).bind (once o.config)).map fun v => { o with config := v }
  | .format => ((format? arg).bind (once o.format)).map fun v => { o with format := v }
  | .caret => ((caret? arg).bind (once o.caret)).map fun v => { o with caret := v }
  | .logLevel => (once o.logLevel arg).map fun v => { o with logLevel := v }

/-- The options with the file of the document. -/
def giveFile (o : Options) (arg : String) : Option Options :=
  ((path? arg).bind (once o.file)).map fun v => { o with file := v }

end Options

/-! ### Arguments -/

/-- What an argument is. -/
inductive Argument where
  /-- An option that has a value, which may be part of the argument. -/
  | option (opt : Opt) (value : Option String)
  /-- The question for help. -/
  | help
  /-- The question for the version. -/
  | version
  /-- The wish for a list of languages. -/
  | listLanguages
  /-- Something that is no option. -/
  | plain
  deriving DecidableEq, Repr

/-- The option with a long name. -/
def longOption? : String → Option Opt
  | "language" => some .language
  | "config" => some .config
  | "format" => some .format
  | "caret" => some .caret
  | "log-level" => some .logLevel
  | _ => none

/-- The argument that begins with two hyphens. -/
def long? (name : Text) (value : Option String) : Option Argument :=
  match longOption? (String.ofList name), value with
  | some opt, value => some (.option opt value)
  | none, none =>
    match String.ofList name with
    | "help" => some .help
    | "version" => some .version
    | "list-languages" => some .listLanguages
    | _ => none
  | none, some _ => none

/-- What an argument is, if it can be one. -/
def Argument.read? (arg : Text) : Option Argument :=
  match arg with
  | '-' :: '-' :: t =>
    match Scanner.chars (· ≠ '=') t with
    | (name, _ :: value) => long? name (some (String.ofList value))
    | (name, []) => long? name none
  | '-' :: 'l' :: '=' :: value => some (.option .language (some (String.ofList value)))
  | ['-', 'l'] => some (.option .language none)
  | '-' :: 'l' :: value => some (.option .language (some (String.ofList value)))
  | '-' :: 'h' :: _ => some .help
  | '-' :: 'V' :: _ => some .version
  | '-' :: _ :: _ => none
  | _ => some .plain

/-- Whether an argument looks like an option. -/
def looksLikeOption (arg : String) : Bool :=
  match arg.toList with
  | '-' :: _ :: _ => true
  | _ => false

/-- What arguments say, behind others that have said `o`. -/
def Request.after? (o : Options) : List String → Option Request
  | [] => some (.work o)
  | arg :: args =>
    if arg = "--" then (args.foldlM Options.giveFile o).map .work
    else
      match Argument.read? arg.toList with
      | none => none
      | some .help => some .help
      | some .version => some .version
      | some .listLanguages =>
        if o.listLanguages then none else after? { o with listLanguages := true } args
      | some .plain => (o.giveFile arg).bind fun o => after? o args
      | some (.option opt (some value)) => (o.give opt value).bind fun o => after? o args
      | some (.option opt none) =>
        match args with
        | [] => none
        | value :: args =>
          if looksLikeOption value then none
          else (o.give opt value).bind fun o => after? o args

/-- What arguments say. -/
def Request.ofArguments? (args : List String) : Option Request := after? {} args

end CodeMarkup.Command
