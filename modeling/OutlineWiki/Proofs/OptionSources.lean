import OutlineWiki.Command.Run
import OutlineWiki.Proofs.FlagUses
import OutlineWiki.Proofs.SettingsFound

/-!
# Where options come from

The options of a command have five layers: what they are without settings, the settings of the file found,
of the file that the environment names, of the file that an argument names, and the arguments themselves.
Of the files only one counts, as a whole and with its errors. What an argument says wins over it: a flag
for line breaks, and of the aliases for a language the last one.
-/

namespace OutlineWiki

open Settings (Value Values)

namespace Settings.Value

end Settings.Value

/-! ## Options from values -/

namespace Options

end Options

namespace Settings

end Settings

namespace Command

open Settings

/-! ## The alias that arguments give -/

/-- The candidates for the settings of a command for which no file is named: those on the way from its
directory to the top, and then the files made for this tool in the user's home. -/
def searched (place : Standpoint) : List Files.Place :=
  candidates place.current ++ dedicatedNames.map fun name => place.home ++ [name]

/-- Where the settings of a command come from and what they are, the error of their file included: from
nowhere when an argument says so, else from the file that the last such argument names, else from the one
that the environment names, else from the first that counts of those searched, else from nowhere. The search can
itself come to an error, that of a project file which trips. -/
inductive SettingsFrom (world : World) (uses : List FlagUse) : Except LoadError Values → Prop where
  | switchedOff : (.noConfig, none) ∈ uses → SettingsFrom world uses (.ok [])
  | named {path : Files.Path} {settings : Except LoadError Values} : (.noConfig, none) ∉ uses →
      given? (valuesOf .config uses).getLast? = some path →
      FileGives world.readers world.place.tree world.place.current path settings → SettingsFrom world uses settings
  | environment {path : Files.Path} {settings : Except LoadError Values} : (.noConfig, none) ∉ uses →
      given? (valuesOf .config uses).getLast? = none → given? world.environment = some path →
      FileGives world.readers world.place.tree world.place.current path settings → SettingsFrom world uses settings
  | found {place : Files.Place} {settings : Except LoadError Values} : (.noConfig, none) ∉ uses →
      given? (valuesOf .config uses).getLast? = none → given? world.environment = none →
      Passes world.readers world.place.tree (searched world.place) (.ok (some place)) →
      FileGives world.readers world.place.tree world.place.current place.path settings →
      SettingsFrom world uses settings
  | tripped {error : LoadError} : (.noConfig, none) ∉ uses → given? (valuesOf .config uses).getLast? = none →
      given? world.environment = none →
      Passes world.readers world.place.tree (searched world.place) (.error error) →
      SettingsFrom world uses (.error error)
  | nothing : (.noConfig, none) ∉ uses → given? (valuesOf .config uses).getLast? = none →
      given? world.environment = none → Passes world.readers world.place.tree (searched world.place) (.ok none) →
      SettingsFrom world uses (.ok [])

variable {world : World}

/-- The settings of a command come from one source. -/
theorem SettingsFrom.unique {uses : List FlagUse} {settings other : Except LoadError Values}
    (known : SettingsFrom world uses settings) (again : SettingsFrom world uses other) : settings = other := by
  cases known with
  | switchedOff off =>
    cases again with
    | switchedOff => rfl
    | _ => contradiction
  | named noFlag named gives =>
    cases again with
    | named _ second also =>
      obtain rfl := Option.some.inj (named.symm.trans second)
      exact gives.unique also
    | _ => simp_all
  | environment noFlag missing named gives =>
    cases again with
    | environment _ _ second also =>
      obtain rfl := Option.some.inj (named.symm.trans second)
      exact gives.unique also
    | _ => simp_all
  | found noFlag missing none passes gives =>
    cases again with
    | found _ _ _ second also =>
      obtain rfl := Option.some.inj (Except.ok.inj (passes.unique second))
      exact gives.unique also
    | tripped _ _ _ second | nothing _ _ _ second => cases passes.unique second
    | _ => simp_all
  | tripped noFlag missing none passes =>
    cases again with
    | tripped _ _ _ second => rw [Except.error.inj (passes.unique second)]
    | found _ _ _ second | nothing _ _ _ second => cases passes.unique second
    | _ => simp_all
  | nothing noFlag missing none passes =>
    cases again with
    | nothing => rfl
    | found _ _ _ second | tripped _ _ _ second => cases passes.unique second
    | _ => simp_all

/-! ## The options of a command -/

end Command

end OutlineWiki
