import Phrasebook.Text.Utf8

/-! The locale that the environment asks for. -/

namespace Phrasebook

/-- The variables that may name the locale, the first to be asked first. -/
def localeVariables : List String :=
  ["LANG", "LANGUAGE", "LC_ALL", "LC_CTYPE", "LC_MESSAGES"]

/-- The locale where no variable names one. -/
def defaultLocale : String := "en_US.UTF-8"

/-- The first value that is there and not empty, no variable after it being asked. -/
def firstNonEmpty {m : Type → Type} [Monad m] (ask : String → m (Option String)) :
    List String → m (Option String)
  | [] => return none
  | name :: rest => do
    -- A value that is empty counts for no more than one that is missing.
    match ← ask name with
    | none => firstNonEmpty ask rest
    | some value => if value.isEmpty then firstNonEmpty ask rest else return some value

/-- The part of a locale before the dot that introduces its character set. -/
def withoutCodeset (locale : String) : String :=
  String.ofList (locale.toList.takeWhile (· != '.'))

/-- The locale that the variables name, asked one by one. -/
def resolveLocale {m : Type → Type} [Monad m] (ask : String → m (Option String)) : m String := do
  let named ← firstNonEmpty ask localeVariables
  return withoutCodeset (named.getD defaultLocale)

/-- The variables of a process, whose values are bytes. -/
abbrev Environment := List (String × Bytes)

/-- The value of a variable, one that is no text counting as unset. -/
def Environment.text? (environment : Environment) (name : String) : Option String :=
  (environment.lookup name).bind Utf8.decode?

/-- The locale of a process with these variables. -/
def Environment.locale (environment : Environment) : String :=
  Id.run (resolveLocale fun name => pure (environment.text? name))

end Phrasebook
