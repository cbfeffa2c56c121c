import ConsoleSweep.Tool.Similarity

/-!
# Command-line arguments

A `Request` is what the arguments of a tool ask for. The arguments are read from left to right.
The first option decides; otherwise one argument has to name a file. Two dashes end the options.

* `Request.ofArguments`: the request of a list of arguments.
-/

namespace ConsoleSweep

/-- What the arguments lack. -/
inductive UsageError where
  /-- No file is named. -/
  | noFile
  /-- The name of the file is empty. -/
  | emptyFile
  /-- A second file is named. -/
  | secondFile (arg : String)
  /-- There is no such option; `similar` is a long option with a similar name. -/
  | unknownOption (option : String) (similar : Option String)
  /-- A long option that takes no value has one. -/
  | surplusValue (option value : String)
  deriving DecidableEq, Repr

/-- What the arguments ask for. -/
inductive Request where
  /-- To treat the file at this path. -/
  | treat (path : String)
  /-- To explain the usage, in short. -/
  | help
  /-- To explain the usage. -/
  | longHelp
  | version
  /-- Something is wrong with the arguments. -/
  | misuse (e : UsageError)
  deriving DecidableEq, Repr

namespace Request

/-- The names of the long options. -/
def longOptions : List String := ["help", "version"]

/-- The least similarity of a name that was perhaps meant. -/
def likely : Similarity := ⟨7, 10⟩

/-- The long option that was perhaps meant by a name, the most similar one. -/
def similar? (name : Text) : Option String :=
  let candidates := longOptions.filter fun o => likely.le (.of name o.toList)
  candidates.foldl
    (fun best o =>
      match best with
      | some b => if (Similarity.of name b.toList).le (.of name o.toList) then some o else some b
      | none => some o)
    none

/-- The request of an option that needs nothing else, given the file named before it, if any. -/
def unlessEmpty (file : Option String) (request : Request) : Request :=
  if file = some "" then .misuse .emptyFile else request

/-- The request of a long option, given without its dashes. -/
def ofLong (file : Option String) (option : Text) : Request :=
  let name := option.takeWhile (· ≠ '=')
  let written := "--" ++ String.ofList name
  if longOptions.contains (String.ofList name) then
    match (option.dropWhile (· ≠ '=')).tail? with
    | some value => .misuse (.surplusValue written (String.ofList value))
    | none => unlessEmpty file (if written = "--help" then .longHelp else .version)
  else .misuse (.unknownOption written (similar? name))

/-- The request of a short option. -/
def ofShort (file : Option String) (option : Char) : Request :=
  match option with
  | 'h' => unlessEmpty file .help
  | 'V' => unlessEmpty file .version
  | _ => .misuse (.unknownOption (String.ofList ['-', option]) none)

/-- The request of the last arguments. `file` was named before them, and `options` says whether
options may still follow. -/
def read (file : Option String) (options : Bool) : List String → Request
  | [] =>
    match file with
    | none => .misuse .noFile
    | some path => unlessEmpty file (.treat path)
  | arg :: rest =>
    match options, arg.toList with
    | true, ['-', '-'] => read file false rest
    | true, '-' :: '-' :: option => ofLong file option
    | true, '-' :: option :: _ => ofShort file option
    | _, _ =>
      match file with
      | none => read (some arg) options rest
      | some _ => .misuse (.secondFile arg)

/-- What the arguments ask for. -/
def ofArguments (args : List String) : Request := read none true args

end Request

end ConsoleSweep
