/-!
# Faults of scripts

Why a text is no script, and the wording of each cause.
-/

namespace PluginAudit.Script

inductive Fault where
  | expected (wanted found : String)
  | unexpectedToken
  | missingSemicolon
  | reservedBinding (word : String)
  | notAssignable
  | spreadNotLast
  | emptyParentheses
  | invalidRest
  | unterminatedRegex
  | missingCatch
  | returnOutsideFunction
  | awaitOutsideAsync
  | yieldOutsideGenerator
  | awaitAsName
  | yieldAsName
  | escapedWord
  | constWithoutValue
  | patternWithoutValue
  | lexicalInBody
  | classInBody
  | asyncInBody
  | generatorInBody
  | missingFunctionName
  | forOfAsync
  | forAwaitWithoutOf
  | newlineAfterThrow
  | restParameterNotLast
  | restElementNotLast
  | commaAfterRest
  | shorthandDefault
  | chainInNew
  | taggedChain
  | newImport
  | bareSuper
  | templateEscape
  | newlineBeforeArrow
  | accessorConstructor
  | asyncConstructor
  | generatorConstructor
  | constructorField
  | staticPrototype
  | privateConstructor
  | repeatedExtends
  | repeatedModifier (word : String)
  | constMember
  | optionalDefinite
  | optionalAccessor
  | usingWithoutValue
  | usingPattern
  | newlineAfterUsing
  | awaitAfterUsing
  | usingInForIn
  | awaitUsingInForIn
  | exportedString
  | exportedReserved
  | exportedHalf
  | flow
  | strayCharacter (c : Char)
  | endOfText
  | afterNumber
  | unterminatedString
  | invalidEscape
  | invalidNameEscape
  | unterminatedComment
  | unknownFlag (c : Char)
  | repeatedFlag (c : Char)
  deriving DecidableEq, Repr

namespace Fault

def message : Fault → String
  | .expected wanted found => "Expected `" ++ wanted ++ "` but found `" ++ found ++ "`"
  | .unexpectedToken => "Unexpected token"
  | .missingSemicolon =>
    "Expected a semicolon or an implicit semicolon after a statement, but found none"
  | .reservedBinding word =>
    "Identifier expected. '" ++ word ++ "' is a reserved word that cannot be used here."
  | .notAssignable => "Cannot assign to this expression"
  | .spreadNotLast => "Spread must be last element"
  | .emptyParentheses => "Empty parenthesized expression"
  | .invalidRest => "Invalid rest element"
  | .unterminatedRegex => "Unterminated regular expression"
  | .missingCatch => "Missing catch or finally clause"
  | .returnOutsideFunction => "A 'return' statement can only be used within a function body."
  | .awaitOutsideAsync =>
    "`await` is only allowed within async functions and at the top levels of modules"
  | .yieldOutsideGenerator => "A 'yield' expression is only allowed in a generator body."
  | .awaitAsName => "Cannot use `await` as an identifier in an async context"
  | .yieldAsName => "Cannot use `yield` as an identifier in a generator context"
  | .escapedWord => "Keywords cannot contain escape characters"
  | .constWithoutValue => "Missing initializer in const declaration"
  | .patternWithoutValue => "Missing initializer in destructuring declaration"
  | .lexicalInBody => "Lexical declaration cannot appear in a single-statement context"
  | .classInBody => "Invalid class declaration"
  | .asyncInBody => "Async functions can only be declared at the top level or inside a block"
  | .generatorInBody => "Generators can only be declared at the top level or inside a block"
  | .missingFunctionName => "Expected function name"
  | .forOfAsync => "The left-hand side of a `for...of` statement may not be `async`"
  | .forAwaitWithoutOf => "await can only be used in conjunction with `for...of` statements"
  | .newlineAfterThrow => "Illegal newline after throw"
  | .restParameterNotLast => "A rest parameter must be last in a parameter list"
  | .restElementNotLast => "A rest element must be last in a destructuring pattern"
  | .commaAfterRest => "Unexpected trailing comma after rest element"
  | .shorthandDefault => "Invalid assignment in object literal"
  | .chainInNew => "Optional chaining cannot appear in the callee of new expressions"
  | .taggedChain => "Tagged template expressions are not permitted in an optional chain"
  | .newImport => "Cannot use new with dynamic import"
  | .bareSuper => "'super' can only be used with function calls or in property accesses"
  | .templateEscape => "Bad escape sequence in untagged template literal"
  | .newlineBeforeArrow => "Line terminator not permitted before arrow"
  | .accessorConstructor => "Constructor can't have get/set modifier"
  | .asyncConstructor => "Constructor can't be an async method"
  | .generatorConstructor => "Constructor can't be a generator"
  | .constructorField => "Classes can't have a field named 'constructor'"
  | .staticPrototype => "Classes may not have a static property named prototype"
  | .privateConstructor => "Classes can't have an element named '#constructor'"
  | .repeatedExtends => "'extends' clause already seen."
  | .repeatedModifier word => word ++ "' modifier already seen."
  | .constMember => "A class member cannot have the 'const' keyword."
  | .optionalDefinite => "A property cannot be both optional and definite."
  | .optionalAccessor => "An 'accessor' property cannot be declared optional."
  | .usingWithoutValue => "Using declarations must have an initializer."
  | .usingPattern => "Using declarations may not have binding patterns."
  | .newlineAfterUsing => "Line terminator not permitted before using declaration."
  | .awaitAfterUsing => "Await is not allowed in using declarations."
  | .usingInForIn => "The left-hand side of a for...in statement cannot be an using declaration."
  | .awaitUsingInForIn =>
    "The left-hand side of a for...in statement cannot be an await using declaration."
  | .exportedString => "A string literal cannot be used as an exported binding without `from`"
  | .exportedReserved => "A reserved word cannot be used as an exported binding without `from`"
  | .exportedHalf => "An export name cannot include a unicode lone surrogate"
  | .flow => "Flow is not supported"
  | .strayCharacter c => "Invalid Character `" ++ String.singleton c ++ "`"
  | .endOfText => "Unexpected end of file"
  | .afterNumber => "Invalid characters after number"
  | .unterminatedString => "Unterminated string"
  | .invalidEscape => "Invalid escape sequence"
  | .invalidNameEscape => "Invalid Unicode escape sequence"
  | .unterminatedComment => "Unterminated multiline comment"
  | .unknownFlag c =>
    "Unexpected flag " ++ String.singleton c ++ " in regular expression literal"
  | .repeatedFlag c =>
    "Flag " ++ String.singleton c ++ " is mentioned twice in regular expression literal"

end Fault

structure FaultAt where
  fault : Fault
  offset : Nat
  deriving DecidableEq, Repr

end PluginAudit.Script
