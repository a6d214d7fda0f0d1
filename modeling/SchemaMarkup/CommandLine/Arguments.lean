import SchemaMarkup.Text.Case

/-! The words on a command line as arguments. An argument is given by its place or as an option,
`--name value` or `--name=value`. The word `--` ends the options.
-/

namespace SchemaMarkup.CommandLine

/-- The arguments of a command: options with their values, and the others by their place. -/
structure Arguments where
  options : List (String × String) := []
  places : List String := []
deriving DecidableEq, Repr, Inhabited

/-- A name of an option with its letter case and the two kinds of dashes forgotten. -/
def optionName (cs : List Char) : String :=
  Text.lower (String.ofList (cs.map fun c => if c = '_' then '-' else c))

/-- The name of an option, and its value if it is written together with it. -/
def optionOf? (word : String) : Option (String × Option String) :=
  match word.toList with
  | '-' :: '-' :: cs =>
    match cs.dropWhile (· ≠ '=') with
    | [] => some (optionName cs, none)
    | _ :: value => some (optionName (cs.takeWhile (· ≠ '=')), some (String.ofList value))
  | _ => none

/-- The options that stand alone, without a value. -/
def switches : List String :=
  ["verbose", "no-verbose", "empty-rename"]

namespace Arguments

/-- Arguments after one more option in front. -/
def withOption (name value : String) (a : Arguments) : Arguments :=
  { a with options := (name, value) :: a.options }

/-- Arguments after one more place in front. -/
def withPlace (value : String) (a : Arguments) : Arguments :=
  { a with places := value :: a.places }

/-- The arguments that words stand for. -/
def ofWords : List String → Arguments
  | [] => {}
  | "--" :: words => { places := words }
  | word :: words =>
    match optionOf? word, words with
    | none, words => (ofWords words).withPlace word
    | some (name, some value), words => (ofWords words).withOption name value
    | some (name, none), [] => withOption name "" {}
    | some (name, none), next :: words =>
      if name ∈ switches then (ofWords (next :: words)).withOption name ""
      else (ofWords words).withOption name next

/-- The value of an argument, and the arguments without it: its option if that is given, else
the first place.
-/
def take? (a : Arguments) (name : String) : Option (String × Arguments) :=
  match a.options.lookup name, a.places with
  | some value, _ => some (value, a)
  | none, value :: places => some (value, { a with places })
  | none, [] => none

/-- The values of an option that may be repeated. -/
def values (a : Arguments) (name : String) : List String :=
  (a.options.filter (·.1 = name)).map Prod.snd

end Arguments
end SchemaMarkup.CommandLine
