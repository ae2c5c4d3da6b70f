import PluginAudit.Regex.CategoryTable

/-!
# Named classes of characters
-/

namespace PluginAudit.Regex

/-- Code points as runs, each with its first, its last and the step between. -/
abbrev Runs := List (Nat × Nat × Nat)

def Runs.contains (rs : Runs) (n : Nat) : Bool :=
  rs.any fun (first, last, step) => first ≤ n && n ≤ last && (n - first) % step == 0

def letterRuns : List Runs :=
  [upperRuns, lowerRuns, titleRuns, modifierRuns, otherLetterRuns]

def anyMarkRuns : List Runs := [markRuns, spacingMarkRuns, enclosingRuns]

def numberRuns : List Runs := [digitRuns, letterNumberRuns, otherNumberRuns]

def punctuationRuns : List Runs :=
  [connectorRuns, dashRuns, openRuns, closeRuns, openQuoteRuns, closeQuoteRuns,
    otherPunctuationRuns]

def signRuns : List Runs := [mathRuns, currencyRuns, signModifierRuns, otherSignRuns]

def separatorRuns : List Runs := [spaceRuns, lineRuns, paragraphRuns]

def visibleRuns : List Runs :=
  letterRuns ++ anyMarkRuns ++ numberRuns ++ punctuationRuns ++ signRuns ++ separatorRuns

def blankRuns : List Runs :=
  separatorRuns ++ [[(9, 13, 1), (0x85, 0x85, 1)]]

def alphabeticRuns : List Runs := letterRuns ++ [letterNumberRuns, otherAlphabeticRuns]

structure Property where
  negated : Bool
  runs : List Runs

def Property.contains (p : Property) (c : Char) : Bool :=
  p.negated != p.runs.any (·.contains c.toNat)

def classNames : List (String × List Runs) :=
  [("l", letterRuns), ("letter", letterRuns),
    ("alphabetic", alphabeticRuns), ("alpha", alphabeticRuns),
    ("lu", [upperRuns]), ("uppercaseletter", [upperRuns]),
    ("uppercase", [upperRuns, otherUpperRuns]), ("upper", [upperRuns, otherUpperRuns]),
    ("ll", [lowerRuns]), ("lowercaseletter", [lowerRuns]),
    ("lowercase", [lowerRuns, otherLowerRuns]), ("lower", [lowerRuns, otherLowerRuns]),
    ("lt", [titleRuns]), ("titlecaseletter", [titleRuns]),
    ("lm", [modifierRuns]), ("modifierletter", [modifierRuns]),
    ("lo", [otherLetterRuns]), ("otherletter", [otherLetterRuns]),
    ("lc", [upperRuns, lowerRuns, titleRuns]), ("casedletter", [upperRuns, lowerRuns, titleRuns]),
    ("m", anyMarkRuns), ("mark", anyMarkRuns), ("mn", [markRuns]), ("nonspacingmark", [markRuns]),
    ("mc", [spacingMarkRuns]), ("spacingmark", [spacingMarkRuns]), ("me", [enclosingRuns]),
    ("enclosingmark", [enclosingRuns]),
    ("n", numberRuns), ("number", numberRuns), ("nd", [digitRuns]), ("decimalnumber", [digitRuns]),
    ("digit", [digitRuns]), ("nl", [letterNumberRuns]), ("letternumber", [letterNumberRuns]),
    ("no", [otherNumberRuns]), ("othernumber", [otherNumberRuns]),
    ("p", punctuationRuns), ("punctuation", punctuationRuns), ("punct", punctuationRuns),
    ("pc", [connectorRuns]), ("connectorpunctuation", [connectorRuns]),
    ("pd", [dashRuns]), ("dashpunctuation", [dashRuns]),
    ("ps", [openRuns]), ("openpunctuation", [openRuns]),
    ("pe", [closeRuns]), ("closepunctuation", [closeRuns]),
    ("pi", [openQuoteRuns]), ("initialpunctuation", [openQuoteRuns]),
    ("pf", [closeQuoteRuns]), ("finalpunctuation", [closeQuoteRuns]),
    ("po", [otherPunctuationRuns]), ("otherpunctuation", [otherPunctuationRuns]),
    ("s", signRuns), ("symbol", signRuns), ("sm", [mathRuns]), ("mathsymbol", [mathRuns]),
    ("sc", [currencyRuns]), ("currencysymbol", [currencyRuns]),
    ("sk", [signModifierRuns]), ("modifiersymbol", [signModifierRuns]),
    ("so", [otherSignRuns]), ("othersymbol", [otherSignRuns]),
    ("z", separatorRuns), ("separator", separatorRuns), ("zs", [spaceRuns]),
    ("spaceseparator", [spaceRuns]), ("zl", [lineRuns]), ("lineseparator", [lineRuns]),
    ("zp", [paragraphRuns]), ("paragraphseparator", [paragraphRuns]),
    ("whitespace", blankRuns), ("space", blankRuns),
    ("cc", [controlRuns]), ("control", [controlRuns]), ("cntrl", [controlRuns]),
    ("cf", [formatRuns]), ("format", [formatRuns]),
    ("ascii", [[(0, 127, 1)]]), ("any", [[(0, 0x10FFFF, 1)]]),
    ("greek", [greekRuns]), ("cyrillic", [cyrillicRuns]), ("latin", [latinRuns]),
    ("han", [hanRuns]), ("hiragana", [hiraganaRuns]), ("katakana", [katakanaRuns]),
    ("hebrew", [hebrewRuns]), ("arabic", [arabicRuns])]

/-- Names are compared without blanks, `_` and `-`, and in small letters. -/
def plainName (name : List Char) : String :=
  String.ofList ((name.filter fun c => !(c == ' ' || c == '_' || c == '-')).map Char.toLower)

def property? (name : List Char) : Option Property :=
  match plainName name with
  | "c" => some ⟨true, visibleRuns⟩
  | "other" => some ⟨true, visibleRuns⟩
  | plain => (classNames.lookup plain).map (⟨false, ·⟩)

end PluginAudit.Regex
