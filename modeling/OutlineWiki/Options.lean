import OutlineWiki.Settings.Value

/-!
# Rendering options

The two options of the renderer and their checked construction from named values. Updating an option
set checks the whole result again, so every option set in use is valid.
-/

namespace OutlineWiki

open Settings (Value Values)

/-- How a document is rendered: whether paragraphs keep their line breaks, and the wiki's names for
languages of code blocks that it knows under another name. -/
structure Options where
  preserveBreaks : Bool := false
  languageAliases : List (String × String) := [("f90", "fortran")]
deriving DecidableEq, Inhabited, Repr

/-- Why named values do not make an option set. -/
inductive OptionsError where
  | unknownName (name : Value)
  | breaksNotABool (found : Value)
  | aliasesNotAMap (found : Value)
  | aliasNotText (name canonical : Value)
deriving Inhabited, Repr

/-- What an error in a value says. An unknown name is refused before any value is looked at. -/
def OptionsError.message : OptionsError → String
  | .unknownName name => "unexpected option '" ++ name.shown ++ "'"
  | .breaksNotABool found => "preserve_breaks must be a bool, got " ++ found.kindName
  | .aliasesNotAMap found => "language_aliases must be a dict, got " ++ found.kindName
  | .aliasNotText name canonical =>
    "language_aliases entries must map str to str, got " ++ name.quoted ++ ": " ++ canonical.quoted

/-- What is known about an option beside its value. -/
structure OptionInfo where
  name : String
  help : String
  flag : String
  importance : String
deriving DecidableEq, Repr

namespace Options

/-- The options in the order in which they are declared. -/
def infos : List OptionInfo :=
  [{ name := "preserve_breaks"
     help := "Keep line breaks inside paragraphs instead of reflowing them"
     flag := "preserve-breaks"
     importance := "core" },
   { name := "language_aliases"
     help := "Map source code block languages to Trac processor names (NAME=CANONICAL)"
     flag := "language-alias"
     importance := "advanced" }]

/-- Whether there is an option of a name, which must be a text. -/
def isKnown (name : Value) : Bool :=
  infos.any fun info => name.isText info.name

/-- The aliases that a table's members give, all of them texts. -/
def readAliases : Values → Except OptionsError (List (String × String))
  | [] => .ok []
  | (.string name, .string canonical) :: rest => do
    let aliases ← readAliases rest
    return (name, canonical) :: aliases
  | (name, canonical) :: _ => .error (.aliasNotText name canonical)

/-- The options with some of them replaced. -/
def update (options : Options) (changes : Values) : Except OptionsError Options := do
  match changes.find? fun change => !isKnown change.1 with
  | some change => throw (.unknownName change.1)
  | none => pure ()
  let preserveBreaks ←
    match Value.member? changes "preserve_breaks" with
    | none => pure options.preserveBreaks
    | some (.bool value) => pure value
    | some other => throw (.breaksNotABool other)
  let languageAliases ←
    match Value.member? changes "language_aliases" with
    | none => pure options.languageAliases
    | some (.table aliases) => readAliases aliases
    | some other => throw (.aliasesNotAMap other)
  return { preserveBreaks, languageAliases }

/-- The options with one alias, in the place of an older one for the same language. -/
def addAlias (options : Options) (name canonical : String) : Options :=
  if options.languageAliases.any (·.1 == name) then
    { options with
      languageAliases := options.languageAliases.map fun entry =>
        if entry.1 == name then (name, canonical) else entry }
  else
    { options with languageAliases := options.languageAliases ++ [(name, canonical)] }

/-- The wiki's name for a language. -/
def canonicalLanguage (options : Options) (language : String) : String :=
  (options.languageAliases.lookup language).getD language

end Options

/-- Why a configuration does not make an option set. -/
inductive ConfigurationError where
  | unknownOption (name : Value)
  | invalid (error : OptionsError)
deriving Inhabited, Repr

/-- What an error in a configuration says. -/
def ConfigurationError.message : ConfigurationError → String
  | .unknownOption name =>
    "Unknown configuration option '" ++ name.shown ++ "'. Valid options: language_aliases, preserve_breaks"
  | .invalid error => "Invalid configuration: " ++ error.message

/-- The option set that a configuration makes of another one. Names are checked before values. -/
def Options.configure (options : Options) (configuration : Values) :
    Except ConfigurationError Options :=
  match configuration.find? fun entry => !isKnown entry.1 with
  | some entry => .error (.unknownOption entry.1)
  | none => (options.update configuration).mapError .invalid

end OutlineWiki
