/-!
# Editions of the language
-/

namespace PluginAudit.Script

inductive Edition where
  | es5 | es2015 | es2016 | es2017 | es2018 | es2019 | es2020 | es2021 | es2022 | es2023 | es2024
  deriving DecidableEq, Repr

namespace Edition

def all : List Edition :=
  [es5, es2015, es2016, es2017, es2018, es2019, es2020, es2021, es2022, es2023, es2024]

def year : Edition → Nat
  | es5 => 2009
  | es2015 => 2015
  | es2016 => 2016
  | es2017 => 2017
  | es2018 => 2018
  | es2019 => 2019
  | es2020 => 2020
  | es2021 => 2021
  | es2022 => 2022
  | es2023 => 2023
  | es2024 => 2024

instance : LE Edition := ⟨fun a b => a.year ≤ b.year⟩

instance : LT Edition := ⟨fun a b => a.year < b.year⟩

instance (a b : Edition) : Decidable (a ≤ b) := inferInstanceAs (Decidable (a.year ≤ b.year))

instance (a b : Edition) : Decidable (a < b) := inferInstanceAs (Decidable (a.year < b.year))

theorem le_def {a b : Edition} : a ≤ b ↔ a.year ≤ b.year := Iff.rfl

theorem lt_def {a b : Edition} : a < b ↔ a.year < b.year := Iff.rfl

def name : Edition → String
  | es5 => "ES5"
  | e => "ES" ++ toString e.year

def ofName? (name : String) : Option Edition := all.find? (·.name == name)

end Edition

end PluginAudit.Script
