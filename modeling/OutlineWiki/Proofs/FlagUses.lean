import Mathlib.Data.List.Induction
import Mathlib.Data.List.TakeWhile
import OutlineWiki.Command.Arguments
import OutlineWiki.Proofs.Outcomes

/-!
# The flags of a command line

A command line that is understood uses flags one after the other, each alone or with a value. What its
arguments are is settled by these uses: a flag that stands alone is used or not, of a value that is given
several times the last counts, and aliases add up.
-/

namespace OutlineWiki.Command

/-- A flag as it is used, with the value it takes. -/
abbrev FlagUse := Flag × Option String

/-- The values that a flag is used with. -/
def valuesOf (flag : Flag) (uses : List FlagUse) : List String :=
  uses.filterMap fun use => if use.1 = flag then use.2 else none

/-- A word set aside changes no arguments. -/
@[simp] theorem Draft.arguments_discard (draft : Draft) (text : String) :
    (draft.discard text).arguments = draft.arguments :=
  rfl

/-- A plain word changes no arguments. -/
@[simp] theorem Draft.arguments_takePlain (draft : Draft) (text : String) :
    (draft.takePlain text).arguments = draft.arguments := by
  unfold Draft.takePlain
  cases draft.input <;> rfl

/-- A use of a flag that is understood, and what it makes of the arguments so far. -/
inductive Takes (arguments : Arguments) : FlagUse → Arguments → Prop where
  | noConfig : arguments.config = none → Takes arguments (.noConfig, none) { arguments with noConfig := true }
  | preserveBreaks : Takes arguments (.preserveBreaks, none) { arguments with preserveBreaks := true }
  | rich : Takes arguments (.rich, none) { arguments with rich := true }
  | trace : Takes arguments (.trace, none) { arguments with trace := true }
  | out (value : String) : Takes arguments (.out, some value) { arguments with out := some value }
  | config (value : String) : arguments.noConfig = false →
      Takes arguments (.config, some value) { arguments with config := some value }
  | languageAlias {value : String} {entry : String × String} : readAlias? value = some entry →
      Takes arguments (.languageAlias, some value)
        { arguments with languageAliases := arguments.languageAliases ++ [entry] }
  | logLevel {value : String} {level : Level} : Level.ofName? value = some level →
      Takes arguments (.logLevel, some value) { arguments with logLevel := level }
  | logFile (value : String) : Takes arguments (.logFile, some value) { arguments with logFile := some value }

/-- A value names an alias: its first equals sign stands between the name and the canonical name, which
count without the blanks around them. -/
def NamesAlias (value name canonical : String) : Prop :=
  ∃ before after, value = before ++ "=" ++ after ∧ '=' ∉ before.toList ∧
    name = Text.strip before ∧ canonical = Text.strip after

/-- The parts before and after the first equals sign of a word are found. -/
theorem splitAtEquals_of_parts {before : String} (after : String) (noSign : '=' ∉ before.toList) :
    splitAtEquals (before ++ "=" ++ after) = (before, some after) := by
  have passed : ∀ character ∈ before.toList, (character != '=') = true := by
    intro character inside
    rw [bne_iff_ne]
    rintro rfl
    exact noSign inside
  have characters : (before ++ "=" ++ after).toList = before.toList ++ '=' :: after.toList := by simp
  simp [splitAtEquals, characters, List.takeWhile_append_of_pos passed, List.dropWhile_append_of_pos passed]

/-- A value names one alias. -/
theorem NamesAlias.unique {value name canonical other next : String} (named : NamesAlias value name canonical)
    (again : NamesAlias value other next) : other = name ∧ next = canonical := by
  obtain ⟨before, after, rfl, noSign, rfl, rfl⟩ := named
  obtain ⟨first, second, same, noOther, rfl, rfl⟩ := again
  have parts := splitAtEquals_of_parts after noSign
  rw [same, splitAtEquals_of_parts second noOther] at parts
  obtain ⟨rfl, rest⟩ := Prod.mk.inj parts
  obtain rfl := Option.some.inj rest
  exact ⟨rfl, rfl⟩

end OutlineWiki.Command
