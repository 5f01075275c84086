import ScopedStyles.Text.Inspect

namespace ScopedStyles.JavaScript

inductive DigitKind where
  | binary
  | octal
  | decimal
  | hexadecimal
  deriving DecidableEq, Repr, Inhabited

def DigitKind.shown : DigitKind → String
  | binary => "a binary digit"
  | octal => "an octal digit"
  | decimal => "a decimal digit"
  | hexadecimal => "a hexadecimal digit"

def DigitKind.base : DigitKind → Nat
  | binary => 2
  | octal => 8
  | decimal => 10
  | hexadecimal => 16

inductive Problem where
  | unexpectedCharacter (c : Char)
  | unterminatedString
  | unfinishedEscape
  | unterminatedRegExp
  | unterminatedComment
  | legacyComment
  | conflictMarker
  | numericSeparator
  | identifierAfterNumber
  | exponentWithoutDigits
  | missingDigit (kind : DigitKind)
  | legacyDecimal
  | legacyOctal
  | badEscape (expected : String)
  | expectedUnicodeEscape
  | invalidUnicodeEscape
  | invalidIdentifierCharacter
  | escapedKeyword (word : String)
  | unknownFlags
  | repeatedFlag (flag : Char)
  | endOfFile
  | expected (wanted found : String)
  | unexpected (found wanted : String)
  | expectedIdentifier
  | expectedExpression
  | expectedSemicolon
  | expectedStatementEnd
  | spaceAfterHash
  | strictReserved (name : String)
  | strictBinding
  | reservedAwait
  | argumentsInField
  | unaryBeforePower
  | mixedCoalescing
  | invalidTarget
  | invalidAssignment
  | notAssignable
  | invalidNewTarget
  | metaOutsideModule
  | invalidSuper
  | invalidSuperCall
  | optionalConstructor
  | templateInOptionalChain
  | importTrailingComma
  | importNotAllowed
  | invalidPattern
  | emptyParentheses
  | spreadInParentheses
  | arrowNotAllowed
  | lineBreakBeforeArrow
  | assignmentProperty
  | deleteIdentifier
  | awaitStar
  | awaitInFunction
  | awaitParameter
  | awaitOutsideModule
  | yieldParameter
  | restNotLast
  | restParameterNotLast
  | commaAfterRest
  | restWithDefault
  | restWithoutIdentifier
  | getterParameters
  | setterParameters
  | restInSetter
  | directiveWithPatterns
  | patternWithoutValue
  | constantWithoutValue
  | trailingComma
  | declarationNotAllowed
  | returnNotAllowed
  | breakNotAllowed
  | continueNotAllowed
  | unknownBreakLabel
  | unknownContinueLabel
  | repeatedLabel (name : String)
  | lineBreakAfterThrow
  | severalDefaults
  | severalLoopVariables
  | loopVariableValue
  | forOfAsync
  | awaitLoop
  | withInStrictCode
  | labeledFunction
  | labeledGenerator
  | repeatedConstructor
  | generatorConstructor
  | asyncConstructor
  | accessorConstructor
  | staticConstructor
  | privateConstructor
  | repeatedExtends
  | constructorField
  | moduleSyntaxInScript
  | stringImportBinding (name : String)
  | stringExportBinding
  | exportWithoutSource (name : String)
  | closingTagMismatch (name : String)
  | fragmentMismatch
  | emptyAttribute
  | invalidAttribute
  | markupCharacter (suggestions : List String)
  | exhausted
  deriving DecidableEq, Repr, Inhabited

namespace Problem

def inspectChar (c : Char) : String :=
  if c = '"' then "'\"'"
  else if c = '\'' then "'\\''"
  else "'" ++ String.ofList (Text.inspectChar c) ++ "'"

def message : Problem → String
  | unexpectedCharacter c => "Unexpected character " ++ inspectChar c
  | unterminatedString => "Unterminated string constant"
  | unfinishedEscape => "Invalid string escape"
  | unterminatedRegExp => "Unterminated regexp literal"
  | unterminatedComment => "Unterminated block comment"
  | legacyComment => "Legacy comments cannot be used in module code"
  | conflictMarker => "Merge conflict marker encountered."
  | numericSeparator => "A numeric separator is only allowed between two digits"
  | identifierAfterNumber => "Identifier cannot follow number"
  | exponentWithoutDigits => "Expected +, - or decimal digit after e"
  | missingDigit kind => "Expected " ++ kind.shown
  | legacyDecimal => "Legacy decimal escape is not permitted in strict mode"
  | legacyOctal => "Legacy octal escape is not permitted in strict mode"
  | badEscape wanted => "Bad character escape sequence, expected " ++ wanted
  | expectedUnicodeEscape => "Expected unicode escape"
  | invalidUnicodeEscape => "Invalid unicode escape"
  | invalidIdentifierCharacter => "Invalid character in identifier"
  | escapedKeyword word => "Unexpected escape sequence in reserved word: " ++ word
  | unknownFlags => "Unknown regular expression flags."
  | repeatedFlag flag => "Duplicated regular expression flag '" ++ String.singleton flag ++ "'."
  | endOfFile => "Unexpected eof"
  | expected wanted found => "Expected '" ++ wanted ++ "', got '" ++ found ++ "'"
  | unexpected found wanted => "Unexpected token `" ++ found ++ "`. Expected " ++ wanted
  | expectedIdentifier => "Expected ident"
  | expectedExpression => "Expression expected"
  | expectedSemicolon => "Expected a semicolon"
  | expectedStatementEnd => "Expected ';', '\x7d' or <eof>"
  | spaceAfterHash => "Unexpected space between # and identifier"
  | strictReserved name => "`" ++ name ++ "` cannot be used as an identifier in strict mode"
  | strictBinding =>
    "'eval' and 'arguments' cannot be used as a binding identifier in strict mode"
  | reservedAwait => "`await` cannot be used as an identifier in an async context"
  | argumentsInField => "'arguments' is only allowed in functions and class methods"
  | unaryBeforePower => "'**' cannot be applied to unary/await expression."
  | mixedCoalescing =>
    "Nullish coalescing operator(??) requires parens when mixing with logical operators"
  | invalidTarget =>
    "The left-hand side of an assignment expression must be a variable or a property access."
  | invalidAssignment => "Cannot assign to this"
  | notAssignable => "Invalid assignment target"
  | invalidNewTarget =>
    "'new.target' is only allowed in the body of a function declaration, function expression, " ++
      "or class."
  | metaOutsideModule => "'import.meta' cannot be used outside of module code."
  | invalidSuper => "Invalid access to super"
  | invalidSuperCall => "Invalid `super()`"
  | optionalConstructor => "Constructor in/after an optional chaining is not allowed."
  | templateInOptionalChain => "Tagged template literal is not allowed in optional chain."
  | importTrailingComma => "Trailing comma is disallowed inside import(...) arguments"
  | importNotAllowed => "Import is not allowed here"
  | invalidPattern => "Not a pattern"
  | emptyParentheses => "Parenthesized expression cannot be empty"
  | spreadInParentheses => "Parenthesized expression cannot contain spread operator"
  | arrowNotAllowed => "An arrow function is not allowed here"
  | lineBreakBeforeArrow => "Unexpected line break between arrow head and arrow"
  | assignmentProperty => "assignment property is invalid syntax"
  | deleteIdentifier => "'delete' cannot be called on an identifier in strict mode"
  | awaitStar =>
    "await* has been removed from the async functions proposal. Use Promise.all() instead."
  | awaitInFunction => "await isn't allowed in non-async function"
  | awaitParameter => "`await` expressions cannot be used in a parameter initializer."
  | awaitOutsideModule => "top level await is only allowed in module"
  | yieldParameter => "'yield' cannot be used as a parameter within generator"
  | restNotLast => "Rest element must be final element"
  | restParameterNotLast => "A rest parameter must be last in a parameter list"
  | commaAfterRest => "Trailing comma isn't permitted after a rest element"
  | restWithDefault => "A rest parameter cannot have an initializer"
  | restWithoutIdentifier => "`...` must be followed by an identifier in declaration contexts"
  | getterParameters => "A `get` accessor cannot have parameters"
  | setterParameters => "A `set` accessor must have exactly one parameter"
  | restInSetter => "Rest pattern is not allowed in setter"
  | directiveWithPatterns =>
    "Illegal 'use strict' directive in function with non-simple parameter list."
  | patternWithoutValue => "Destructuring bindings require initializers"
  | constantWithoutValue => "'const' declarations must be initialized"
  | trailingComma => "Trailing comma is not allowed"
  | declarationNotAllowed => "Declaration is not allowed"
  | returnNotAllowed => "Return statement is not allowed here"
  | breakNotAllowed =>
    "A 'break' statement can only be used within an enclosing iteration or switch statement"
  | unknownBreakLabel =>
    "A 'break' statement can only jump to a label of an enclosing statement"
  | continueNotAllowed =>
    "A 'continue' statement can only jump to a label of an enclosing iteration statement"
  | unknownContinueLabel => "Jump target cannot cross function boundary"
  | repeatedLabel name => "Label " ++ name ++ " is already declared"
  | lineBreakAfterThrow => "LineBreak cannot follow 'throw'"
  | severalDefaults => "A switch block cannot have multiple defaults"
  | severalLoopVariables => "Expected one variable binding"
  | loopVariableValue => "Unexpected initializer in for in/of loop"
  | forOfAsync => "The left-hand side of a 'for...of' statement may not be 'async'."
  | awaitLoop => "for await syntax is valid only for for-of statement"
  | withInStrictCode => "With statement are not allowed in strict mode"
  | labeledFunction => "Function cannot be labelled in strict mode"
  | labeledGenerator => "Generator or async function cannot be labelled"
  | repeatedConstructor => "A class can only have one constructor"
  | generatorConstructor => "Constructor can't be a generator"
  | asyncConstructor => "Constructor can't be an async function"
  | accessorConstructor => "Class constructor can't be an accessor."
  | staticConstructor => "'static' modifier cannot appear on a constructor declaration"
  | privateConstructor => "Classes can't have a private field named '#constructor'."
  | constructorField => "Classes may not have a non-static field named 'constructor'"
  | repeatedExtends => "'extends' clause already seen."
  | moduleSyntaxInScript => "'import', and 'export' cannot be used outside of module code"
  | stringImportBinding name =>
    "A string literal cannot be used as an imported binding.\n- Did you mean `import \x7b \"" ++
      name ++ "\" as foo \x7d`?"
  | stringExportBinding =>
    "A string literal cannot be used as an exported binding without `from`."
  | exportWithoutSource name => "`" ++ name ++ "` cannot be used without `from` clause"
  | closingTagMismatch name => "Expected corresponding JSX closing tag for <" ++ name ++ ">"
  | fragmentMismatch => "Expected corresponding JSX closing tag for <>"
  | emptyAttribute => "JSX attributes must only be assigned a non-empty expression"
  | invalidAttribute => "JSX value should be either an expression or a quoted JSX text"
  | markupCharacter suggestions =>
    "Unexpected token. Did you mean " ++ String.intercalate " or " suggestions ++ "?"
  | exhausted => "Nesting too deep"

def inspect : Problem → String
  | unexpectedCharacter c => "UnexpectedChar \x7b c: " ++ inspectChar c ++ " \x7d"
  | unterminatedRegExp => "UnterminatedRegExp"
  | identifierAfterNumber => "IdentAfterNum"
  | exponentWithoutDigits => "NumLitTerminatedWithExp"
  | missingDigit kind => "ExpectedDigit \x7b radix: " ++ toString kind.base ++ " \x7d"
  | badEscape wanted =>
    "BadCharacterEscapeSequence \x7b expected: " ++ Text.inspect wanted ++ " \x7d"
  | expectedUnicodeEscape => "ExpectedUnicodeEscape"
  | invalidUnicodeEscape => "InvalidUnicodeEscape"
  | unfinishedEscape => "InvalidStrEscape"
  | escapedKeyword word => "EscapeInReservedWord \x7b word: " ++ Text.inspect word ++ " \x7d"
  | problem => problem.message

end Problem

end ScopedStyles.JavaScript
