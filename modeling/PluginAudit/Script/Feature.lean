import PluginAudit.Script.Edition
import PluginAudit.Script.Tree

/-!
# Features of the language and their editions

`Tree.features` says what a single node uses that the oldest edition lacks, `Tree.findings` lists
this for a whole tree, and `Finding.firstAbove?` is the finding to report at a level.
-/

namespace PluginAudit.Script

inductive Feature where
  | hashbang
  | letDeclaration | constDeclaration | usingDeclaration
  | forOf | forAwait | optionalCatch
  | generatorFunction | asyncFunction | asyncGenerator | arrowFunction
  | defaultParameter | restParameter
  | classDefinition | classField | staticBlock | privateName
  | templateLiteral | taggedTemplate | codePointEscape
  | radixLiteral | numericSeparator | bigintLiteral
  | regexV | regexD | regexS | regexGroup | regexProperty | regexUY
  | yield | await | superWord | metaProperty | dynamicImport
  | exponentiation | nullishCoalescing | logicalAssignment | optionalChaining
  | destructuring | objectRest | objectSpread | spreadElement
  | computedProperty | shorthandProperty | methodDefinition
  deriving DecidableEq, Repr

namespace Feature

def name : Feature → String
  | hashbang => "hashbang"
  | letDeclaration => "let declaration"
  | constDeclaration => "const declaration"
  | usingDeclaration => "using declaration"
  | forOf => "for-of loop"
  | forAwait => "for-await-of loop"
  | optionalCatch => "optional catch binding"
  | generatorFunction => "generator function"
  | asyncFunction => "async function"
  | asyncGenerator => "async generator"
  | arrowFunction => "arrow function"
  | defaultParameter => "default parameter value"
  | restParameter => "rest parameter"
  | classDefinition => "class"
  | classField => "class field"
  | staticBlock => "class static block"
  | privateName => "private name"
  | templateLiteral => "template literal"
  | taggedTemplate => "tagged template"
  | codePointEscape => "code point escape"
  | radixLiteral => "binary or octal literal"
  | numericSeparator => "numeric separator"
  | bigintLiteral => "bigint literal"
  | regexV => "regex v flag"
  | regexD => "regex d flag"
  | regexS => "regex s flag"
  | regexGroup => "regex named group or lookbehind"
  | regexProperty => "regex property escape"
  | regexUY => "regex u or y flag"
  | yield => "yield"
  | await => "await"
  | superWord => "super"
  | metaProperty => "meta property"
  | dynamicImport => "dynamic import"
  | exponentiation => "exponentiation operator"
  | nullishCoalescing => "nullish coalescing"
  | logicalAssignment => "logical assignment"
  | optionalChaining => "optional chaining"
  | destructuring => "destructuring"
  | objectRest => "object rest"
  | objectSpread => "object spread"
  | spreadElement => "spread element"
  | computedProperty => "computed property"
  | shorthandProperty => "shorthand property"
  | methodDefinition => "method definition"

def edition : Feature → Edition
  | exponentiation => .es2016
  | asyncFunction | await => .es2017
  | asyncGenerator | forAwait | objectRest | objectSpread | regexS | regexGroup
  | regexProperty => .es2018
  | optionalCatch => .es2019
  | bigintLiteral | dynamicImport | nullishCoalescing | optionalChaining => .es2020
  | numericSeparator | logicalAssignment | usingDeclaration => .es2021
  | classField | staticBlock | privateName | regexD => .es2022
  | hashbang => .es2023
  | regexV => .es2024
  | _ => .es2015

theorem newer_than_es5 (f : Feature) : Edition.es5 < f.edition := by
  cases f <;> decide

end Feature

/-! ## Literals -/

/-- Whether `part` stands somewhere in a text. -/
def holds (part : List Char) : List Char → Bool
  | [] => part.isEmpty
  | c :: cs => part.isPrefixOf (c :: cs) || holds part cs

def regexParts (raw : List Char) : List Char × List Char :=
  let flags := raw.reverse.takeWhile (· != '/')
  ((raw.take (raw.length - flags.length - 1)).drop 1, flags.reverse)

/-- What a regular expression needs; the newest of its flags hides the rest. -/
def regexFeature? (body flags : List Char) : Option Feature :=
  if flags.contains 'v' then some .regexV
  else if flags.contains 'd' then some .regexD
  else if flags.contains 's' then some .regexS
  else if holds "(?<".toList body then some .regexGroup
  else if flags.contains 'u' && (holds "\\p\x7b".toList body || holds "\\P\x7b".toList body) then
    some .regexProperty
  else if flags.contains 'u' || flags.contains 'y' then some .regexUY
  else none

def hasRadixPrefix : List Char → Bool
  | '0' :: c :: _ => c == 'b' || c == 'B' || c == 'o' || c == 'O'
  | _ => false

/-! ## Nodes -/

def featureIf (b : Bool) (f : Feature) : List Feature := if b then [f] else []

def functionFeatures (async generator : Bool) : List Feature :=
  featureIf generator .generatorFunction ++ featureIf async .asyncFunction ++
    featureIf (async && generator) .asyncGenerator

def bindingFeatures : List Tree → List Feature
  | p :: _ =>
    match p.kind with
    | .defaulted => [.defaultParameter]
    | .objectPattern | .arrayPattern => [.destructuring]
    | _ => []
  | [] => []

def assignmentFeatures (sign : String) (parts : List Tree) : List Feature :=
  featureIf (sign == "**=") .exponentiation ++
  featureIf (sign == "&&=" || sign == "||=" || sign == "??=") .logicalAssignment ++
  match parts with
  | t :: _ => featureIf (t.kind == .objectTarget || t.kind == .arrayTarget) .destructuring
  | [] => []

def declarationFeatures : DeclarationWord → List Feature
  | .var => []
  | .let => [.letDeclaration]
  | .const => [.constDeclaration]
  | .using | .awaitUsing => [.usingDeclaration]

def spreadFeatures : DotsPlace → List Feature
  | .objectProperty => [.objectSpread]
  | .arrayElement | .argument => [.spreadElement]
  | _ => []

def restFeatures : DotsPlace → List Feature
  | .parameters => [.restParameter]
  | .objectPattern | .objectTarget => [.objectRest]
  | _ => []

def placedFeatures (place : Place) (fs : List Feature) : List Feature :=
  match place with
  | .statement | .expression => fs
  | .method | .export => []

namespace Tree

/-- What a node uses, its parts aside, in the order of reporting. -/
def features (t : Tree) : List Feature :=
  match t.kind with
  | .hashbang => [.hashbang]
  | .forOf isAwait => .forOf :: featureIf isAwait .forAwait
  | .catchClause bound => featureIf (!bound) .optionalCatch
  | .declaration word => declarationFeatures word
  | .declarator | .parameter => bindingFeatures t.parts
  | .function place async generator => placedFeatures place (functionFeatures async generator)
  | .arrow async => .arrowFunction :: featureIf async .asyncFunction
  | .classDefinition place => placedFeatures place [.classDefinition]
  | .field => [.classField]
  | .staticBlock => [.staticBlock]
  | .privateName _ => [.privateName]
  | .string raw => featureIf (holds "\\u\x7b".toList raw) .codePointEscape
  | .number raw =>
    featureIf (hasRadixPrefix raw) .radixLiteral ++ featureIf (raw.contains '_') .numericSeparator
  | .bigint _ => [.bigintLiteral]
  | .regex raw => (regexFeature? (regexParts raw).1 (regexParts raw).2).toList
  | .template tagged => featureIf (!tagged) .templateLiteral
  | .taggedTemplate => [.taggedTemplate]
  | .spread place => spreadFeatures place
  | .rest place => restFeatures place
  | .property form computed shorthand =>
    featureIf computed .computedProperty ++ featureIf shorthand .shorthandProperty ++
      featureIf (form == .method) .methodDefinition
  | .binary sign => featureIf (sign == "**") .exponentiation
  | .logical sign => featureIf (sign == "??") .nullishCoalescing
  | .assignment sign => assignmentFeatures sign t.parts
  | .call optional => featureIf optional .optionalChaining
  | .chain => [.optionalChaining]
  | .metaProperty => [.metaProperty]
  | .superWord => [.superWord]
  | .importCall => [.dynamicImport]
  | .yield => [.yield]
  | .await => [.await]
  | _ => []

end Tree

structure Finding where
  feature : Feature
  offset : Nat
  deriving DecidableEq, Repr

/-- All that a tree uses, each node before its parts. -/
def Tree.findings (t : Tree) : List Finding :=
  t.nodes.flatMap fun n => n.features.map (⟨·, n.start⟩)

theorem Tree.mem_findings {t : Tree} {f : Finding} :
    f ∈ t.findings ↔ ∃ n ∈ t.nodes, f.feature ∈ n.features ∧ n.start = f.offset := by
  constructor
  · intro h
    simp only [findings, List.mem_flatMap, List.mem_map] at h
    obtain ⟨n, hn, g, hg, rfl⟩ := h
    exact ⟨n, hn, hg, rfl⟩
  · rintro ⟨n, hn, hg, ho⟩
    simp only [findings, List.mem_flatMap, List.mem_map]
    exact ⟨n, hn, f.feature, hg, by rw [ho]⟩

namespace Finding

/-- The finding with the least offset; of several the first. -/
def earliest? : List Finding → Option Finding
  | [] => none
  | f :: fs =>
    match earliest? fs with
    | none => some f
    | some g => some (if g.offset < f.offset then g else f)

theorem earliest?_eq_none {fs : List Finding} : earliest? fs = none ↔ fs = [] := by
  cases fs with
  | nil => simp [earliest?]
  | cons f fs => simp only [earliest?]; split <;> simp

theorem earliest?_mem {fs : List Finding} {f : Finding} (h : earliest? fs = some f) : f ∈ fs := by
  induction fs with
  | nil => simp [earliest?] at h
  | cons g gs ih =>
    simp only [earliest?] at h
    split at h
    · simp_all
    · rename_i k hk
      split at h
      · exact List.mem_cons_of_mem _ (ih (by rw [hk, ← h]))
      · simp_all

theorem earliest?_le {fs : List Finding} {f g : Finding} (h : earliest? fs = some f)
    (hg : g ∈ fs) : f.offset ≤ g.offset := by
  induction fs generalizing f with
  | nil => simp at hg
  | cons a as ih =>
    simp only [earliest?] at h
    split at h
    · rename_i hn
      rw [earliest?_eq_none] at hn
      simp_all
    · rename_i k hk
      have hle : f.offset ≤ a.offset ∧ f.offset ≤ k.offset := by
        split at h <;> simp at h <;> subst h <;> omega
      rcases List.mem_cons.1 hg with rfl | hg
      · exact hle.1
      · exact Nat.le_trans hle.2 (ih hk hg)

/-- The first use of a feature newer than `level`. -/
def firstAbove? (level : Edition) (fs : List Finding) : Option Finding :=
  earliest? (fs.filter fun f => level < f.feature.edition)

theorem firstAbove?_eq_none {level : Edition} {fs : List Finding} :
    firstAbove? level fs = none ↔ ∀ f ∈ fs, ¬ level < f.feature.edition := by
  simp [firstAbove?, earliest?_eq_none]

theorem not_above_of_feature {level : Edition} {t n : Tree} {f : Feature}
    (h : firstAbove? level t.findings = none) (hn : n ∈ t.nodes) (hf : f ∈ n.features) :
    ¬ level < f.edition := by
  have hfinding : (⟨f, n.start⟩ : Finding) ∈ t.findings := Tree.mem_findings.2 ⟨n, hn, hf, rfl⟩
  exact firstAbove?_eq_none.1 h _ hfinding

theorem features_eq_nil_of_es5 {t n : Tree} (h : firstAbove? .es5 t.findings = none)
    (hn : n ∈ t.nodes) : n.features = [] := by
  rw [List.eq_nil_iff_forall_not_mem]
  intro f hf
  exact not_above_of_feature h hn hf f.newer_than_es5

def message (f : Finding) : String :=
  f.feature.name ++ " requires " ++ f.feature.edition.name

end Finding

end PluginAudit.Script
