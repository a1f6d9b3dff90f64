/-!
# Token kinds

The kinds of token the scanner produces: end of file, literals, punctuation, assignment operators,
identifiers and keywords. Keywords split into reserved words, which never name a binding, and
contextual keywords, which are keywords only in some positions and identifiers elsewhere. The order
of the constructors groups these families, so each family is an interval of constructor indices.

`TokenKind.name` is the name under which a kind is reported, `TokenKind.text?` the fixed source
text of punctuation and keywords, and `keywordKind?` reads a word as a keyword.
-/

namespace ParamNarrow

/-- The kind of a token. -/
inductive TokenKind where
  | unknown
  | endOfFileToken
  | numericLiteral
  | bigIntLiteral
  | stringLiteral
  | regularExpressionLiteral
  | noSubstitutionTemplateLiteral
  | templateHead
  | templateMiddle
  | templateTail
  | openBraceToken
  | closeBraceToken
  | openParenToken
  | closeParenToken
  | openBracketToken
  | closeBracketToken
  | dotToken
  | dotDotDotToken
  | semicolonToken
  | commaToken
  | questionDotToken
  | lessThanToken
  | greaterThanToken
  | lessThanEqualsToken
  | greaterThanEqualsToken
  | equalsEqualsToken
  | exclamationEqualsToken
  | equalsEqualsEqualsToken
  | exclamationEqualsEqualsToken
  | equalsGreaterThanToken
  | plusToken
  | minusToken
  | asteriskToken
  | asteriskAsteriskToken
  | slashToken
  | percentToken
  | plusPlusToken
  | minusMinusToken
  | lessThanLessThanToken
  | greaterThanGreaterThanToken
  | greaterThanGreaterThanGreaterThanToken
  | ampersandToken
  | barToken
  | caretToken
  | exclamationToken
  | tildeToken
  | ampersandAmpersandToken
  | barBarToken
  | questionToken
  | colonToken
  | atToken
  | questionQuestionToken
  | hashToken
  | equalsToken
  | plusEqualsToken
  | minusEqualsToken
  | asteriskEqualsToken
  | asteriskAsteriskEqualsToken
  | slashEqualsToken
  | percentEqualsToken
  | lessThanLessThanEqualsToken
  | greaterThanGreaterThanEqualsToken
  | greaterThanGreaterThanGreaterThanEqualsToken
  | ampersandEqualsToken
  | barEqualsToken
  | caretEqualsToken
  | barBarEqualsToken
  | ampersandAmpersandEqualsToken
  | questionQuestionEqualsToken
  | identifier
  | breakKeyword
  | caseKeyword
  | catchKeyword
  | classKeyword
  | constKeyword
  | continueKeyword
  | debuggerKeyword
  | defaultKeyword
  | deleteKeyword
  | doKeyword
  | elseKeyword
  | enumKeyword
  | exportKeyword
  | extendsKeyword
  | falseKeyword
  | finallyKeyword
  | forKeyword
  | functionKeyword
  | ifKeyword
  | importKeyword
  | inKeyword
  | instanceOfKeyword
  | newKeyword
  | nullKeyword
  | returnKeyword
  | superKeyword
  | switchKeyword
  | thisKeyword
  | throwKeyword
  | trueKeyword
  | tryKeyword
  | typeOfKeyword
  | varKeyword
  | voidKeyword
  | whileKeyword
  | withKeyword
  | abstractKeyword
  | anyKeyword
  | asKeyword
  | assertsKeyword
  | asyncKeyword
  | awaitKeyword
  | bigIntKeyword
  | booleanKeyword
  | declareKeyword
  | fromKeyword
  | getKeyword
  | implementsKeyword
  | inferKeyword
  | interfaceKeyword
  | isKeyword
  | keyOfKeyword
  | letKeyword
  | moduleKeyword
  | namespaceKeyword
  | neverKeyword
  | numberKeyword
  | objectKeyword
  | ofKeyword
  | packageKeyword
  | privateKeyword
  | protectedKeyword
  | publicKeyword
  | readonlyKeyword
  | satisfiesKeyword
  | setKeyword
  | staticKeyword
  | stringKeyword
  | symbolKeyword
  | typeKeyword
  | undefinedKeyword
  | uniqueKeyword
  | unknownKeyword
  | yieldKeyword
deriving DecidableEq, Repr, Inhabited

namespace TokenKind

/-- The name under which a token kind is reported. -/
def name : TokenKind → String
  | .unknown => "Unknown"
  | .endOfFileToken => "EndOfFileToken"
  | .numericLiteral => "NumericLiteral"
  | .bigIntLiteral => "BigIntLiteral"
  | .stringLiteral => "StringLiteral"
  | .regularExpressionLiteral => "RegularExpressionLiteral"
  | .noSubstitutionTemplateLiteral => "NoSubstitutionTemplateLiteral"
  | .templateHead => "TemplateHead"
  | .templateMiddle => "TemplateMiddle"
  | .templateTail => "TemplateTail"
  | .openBraceToken => "OpenBraceToken"
  | .closeBraceToken => "CloseBraceToken"
  | .openParenToken => "OpenParenToken"
  | .closeParenToken => "CloseParenToken"
  | .openBracketToken => "OpenBracketToken"
  | .closeBracketToken => "CloseBracketToken"
  | .dotToken => "DotToken"
  | .dotDotDotToken => "DotDotDotToken"
  | .semicolonToken => "SemicolonToken"
  | .commaToken => "CommaToken"
  | .questionDotToken => "QuestionDotToken"
  | .lessThanToken => "LessThanToken"
  | .greaterThanToken => "GreaterThanToken"
  | .lessThanEqualsToken => "LessThanEqualsToken"
  | .greaterThanEqualsToken => "GreaterThanEqualsToken"
  | .equalsEqualsToken => "EqualsEqualsToken"
  | .exclamationEqualsToken => "ExclamationEqualsToken"
  | .equalsEqualsEqualsToken => "EqualsEqualsEqualsToken"
  | .exclamationEqualsEqualsToken => "ExclamationEqualsEqualsToken"
  | .equalsGreaterThanToken => "EqualsGreaterThanToken"
  | .plusToken => "PlusToken"
  | .minusToken => "MinusToken"
  | .asteriskToken => "AsteriskToken"
  | .asteriskAsteriskToken => "AsteriskAsteriskToken"
  | .slashToken => "SlashToken"
  | .percentToken => "PercentToken"
  | .plusPlusToken => "PlusPlusToken"
  | .minusMinusToken => "MinusMinusToken"
  | .lessThanLessThanToken => "LessThanLessThanToken"
  | .greaterThanGreaterThanToken => "GreaterThanGreaterThanToken"
  | .greaterThanGreaterThanGreaterThanToken => "GreaterThanGreaterThanGreaterThanToken"
  | .ampersandToken => "AmpersandToken"
  | .barToken => "BarToken"
  | .caretToken => "CaretToken"
  | .exclamationToken => "ExclamationToken"
  | .tildeToken => "TildeToken"
  | .ampersandAmpersandToken => "AmpersandAmpersandToken"
  | .barBarToken => "BarBarToken"
  | .questionToken => "QuestionToken"
  | .colonToken => "ColonToken"
  | .atToken => "AtToken"
  | .questionQuestionToken => "QuestionQuestionToken"
  | .hashToken => "HashToken"
  | .equalsToken => "EqualsToken"
  | .plusEqualsToken => "PlusEqualsToken"
  | .minusEqualsToken => "MinusEqualsToken"
  | .asteriskEqualsToken => "AsteriskEqualsToken"
  | .asteriskAsteriskEqualsToken => "AsteriskAsteriskEqualsToken"
  | .slashEqualsToken => "SlashEqualsToken"
  | .percentEqualsToken => "PercentEqualsToken"
  | .lessThanLessThanEqualsToken => "LessThanLessThanEqualsToken"
  | .greaterThanGreaterThanEqualsToken => "GreaterThanGreaterThanEqualsToken"
  | .greaterThanGreaterThanGreaterThanEqualsToken => "GreaterThanGreaterThanGreaterThanEqualsToken"
  | .ampersandEqualsToken => "AmpersandEqualsToken"
  | .barEqualsToken => "BarEqualsToken"
  | .caretEqualsToken => "CaretEqualsToken"
  | .barBarEqualsToken => "BarBarEqualsToken"
  | .ampersandAmpersandEqualsToken => "AmpersandAmpersandEqualsToken"
  | .questionQuestionEqualsToken => "QuestionQuestionEqualsToken"
  | .identifier => "Identifier"
  | .breakKeyword => "BreakKeyword"
  | .caseKeyword => "CaseKeyword"
  | .catchKeyword => "CatchKeyword"
  | .classKeyword => "ClassKeyword"
  | .constKeyword => "ConstKeyword"
  | .continueKeyword => "ContinueKeyword"
  | .debuggerKeyword => "DebuggerKeyword"
  | .defaultKeyword => "DefaultKeyword"
  | .deleteKeyword => "DeleteKeyword"
  | .doKeyword => "DoKeyword"
  | .elseKeyword => "ElseKeyword"
  | .enumKeyword => "EnumKeyword"
  | .exportKeyword => "ExportKeyword"
  | .extendsKeyword => "ExtendsKeyword"
  | .falseKeyword => "FalseKeyword"
  | .finallyKeyword => "FinallyKeyword"
  | .forKeyword => "ForKeyword"
  | .functionKeyword => "FunctionKeyword"
  | .ifKeyword => "IfKeyword"
  | .importKeyword => "ImportKeyword"
  | .inKeyword => "InKeyword"
  | .instanceOfKeyword => "InstanceOfKeyword"
  | .newKeyword => "NewKeyword"
  | .nullKeyword => "NullKeyword"
  | .returnKeyword => "ReturnKeyword"
  | .superKeyword => "SuperKeyword"
  | .switchKeyword => "SwitchKeyword"
  | .thisKeyword => "ThisKeyword"
  | .throwKeyword => "ThrowKeyword"
  | .trueKeyword => "TrueKeyword"
  | .tryKeyword => "TryKeyword"
  | .typeOfKeyword => "TypeOfKeyword"
  | .varKeyword => "VarKeyword"
  | .voidKeyword => "VoidKeyword"
  | .whileKeyword => "WhileKeyword"
  | .withKeyword => "WithKeyword"
  | .abstractKeyword => "AbstractKeyword"
  | .anyKeyword => "AnyKeyword"
  | .asKeyword => "AsKeyword"
  | .assertsKeyword => "AssertsKeyword"
  | .asyncKeyword => "AsyncKeyword"
  | .awaitKeyword => "AwaitKeyword"
  | .bigIntKeyword => "BigIntKeyword"
  | .booleanKeyword => "BooleanKeyword"
  | .declareKeyword => "DeclareKeyword"
  | .fromKeyword => "FromKeyword"
  | .getKeyword => "GetKeyword"
  | .implementsKeyword => "ImplementsKeyword"
  | .inferKeyword => "InferKeyword"
  | .interfaceKeyword => "InterfaceKeyword"
  | .isKeyword => "IsKeyword"
  | .keyOfKeyword => "KeyOfKeyword"
  | .letKeyword => "LetKeyword"
  | .moduleKeyword => "ModuleKeyword"
  | .namespaceKeyword => "NamespaceKeyword"
  | .neverKeyword => "NeverKeyword"
  | .numberKeyword => "NumberKeyword"
  | .objectKeyword => "ObjectKeyword"
  | .ofKeyword => "OfKeyword"
  | .packageKeyword => "PackageKeyword"
  | .privateKeyword => "PrivateKeyword"
  | .protectedKeyword => "ProtectedKeyword"
  | .publicKeyword => "PublicKeyword"
  | .readonlyKeyword => "ReadonlyKeyword"
  | .satisfiesKeyword => "SatisfiesKeyword"
  | .setKeyword => "SetKeyword"
  | .staticKeyword => "StaticKeyword"
  | .stringKeyword => "StringKeyword"
  | .symbolKeyword => "SymbolKeyword"
  | .typeKeyword => "TypeKeyword"
  | .undefinedKeyword => "UndefinedKeyword"
  | .uniqueKeyword => "UniqueKeyword"
  | .unknownKeyword => "UnknownKeyword"
  | .yieldKeyword => "YieldKeyword"

/-- The fixed source text of a punctuation or keyword token. -/
def text? : TokenKind → Option String
  | .openBraceToken => some "\x7b"
  | .closeBraceToken => some "\x7d"
  | .openParenToken => some "("
  | .closeParenToken => some ")"
  | .openBracketToken => some "["
  | .closeBracketToken => some "]"
  | .dotToken => some "."
  | .dotDotDotToken => some "..."
  | .semicolonToken => some ";"
  | .commaToken => some ","
  | .questionDotToken => some "?."
  | .lessThanToken => some "<"
  | .greaterThanToken => some ">"
  | .lessThanEqualsToken => some "<="
  | .greaterThanEqualsToken => some ">="
  | .equalsEqualsToken => some "=="
  | .exclamationEqualsToken => some "!="
  | .equalsEqualsEqualsToken => some "==="
  | .exclamationEqualsEqualsToken => some "!=="
  | .equalsGreaterThanToken => some "=>"
  | .plusToken => some "+"
  | .minusToken => some "-"
  | .asteriskToken => some "*"
  | .asteriskAsteriskToken => some "**"
  | .slashToken => some "/"
  | .percentToken => some "%"
  | .plusPlusToken => some "++"
  | .minusMinusToken => some "--"
  | .lessThanLessThanToken => some "<<"
  | .greaterThanGreaterThanToken => some ">>"
  | .greaterThanGreaterThanGreaterThanToken => some ">>>"
  | .ampersandToken => some "&"
  | .barToken => some "|"
  | .caretToken => some "^"
  | .exclamationToken => some "!"
  | .tildeToken => some "~"
  | .ampersandAmpersandToken => some "&&"
  | .barBarToken => some "||"
  | .questionToken => some "?"
  | .colonToken => some ":"
  | .atToken => some "@"
  | .questionQuestionToken => some "??"
  | .hashToken => some "#"
  | .equalsToken => some "="
  | .plusEqualsToken => some "+="
  | .minusEqualsToken => some "-="
  | .asteriskEqualsToken => some "*="
  | .asteriskAsteriskEqualsToken => some "**="
  | .slashEqualsToken => some "/="
  | .percentEqualsToken => some "%="
  | .lessThanLessThanEqualsToken => some "<<="
  | .greaterThanGreaterThanEqualsToken => some ">>="
  | .greaterThanGreaterThanGreaterThanEqualsToken => some ">>>="
  | .ampersandEqualsToken => some "&="
  | .barEqualsToken => some "|="
  | .caretEqualsToken => some "^="
  | .barBarEqualsToken => some "||="
  | .ampersandAmpersandEqualsToken => some "&&="
  | .questionQuestionEqualsToken => some "??="
  | .breakKeyword => some "break"
  | .caseKeyword => some "case"
  | .catchKeyword => some "catch"
  | .classKeyword => some "class"
  | .constKeyword => some "const"
  | .continueKeyword => some "continue"
  | .debuggerKeyword => some "debugger"
  | .defaultKeyword => some "default"
  | .deleteKeyword => some "delete"
  | .doKeyword => some "do"
  | .elseKeyword => some "else"
  | .enumKeyword => some "enum"
  | .exportKeyword => some "export"
  | .extendsKeyword => some "extends"
  | .falseKeyword => some "false"
  | .finallyKeyword => some "finally"
  | .forKeyword => some "for"
  | .functionKeyword => some "function"
  | .ifKeyword => some "if"
  | .importKeyword => some "import"
  | .inKeyword => some "in"
  | .instanceOfKeyword => some "instanceof"
  | .newKeyword => some "new"
  | .nullKeyword => some "null"
  | .returnKeyword => some "return"
  | .superKeyword => some "super"
  | .switchKeyword => some "switch"
  | .thisKeyword => some "this"
  | .throwKeyword => some "throw"
  | .trueKeyword => some "true"
  | .tryKeyword => some "try"
  | .typeOfKeyword => some "typeof"
  | .varKeyword => some "var"
  | .voidKeyword => some "void"
  | .whileKeyword => some "while"
  | .withKeyword => some "with"
  | .abstractKeyword => some "abstract"
  | .anyKeyword => some "any"
  | .asKeyword => some "as"
  | .assertsKeyword => some "asserts"
  | .asyncKeyword => some "async"
  | .awaitKeyword => some "await"
  | .bigIntKeyword => some "bigint"
  | .booleanKeyword => some "boolean"
  | .declareKeyword => some "declare"
  | .fromKeyword => some "from"
  | .getKeyword => some "get"
  | .implementsKeyword => some "implements"
  | .inferKeyword => some "infer"
  | .interfaceKeyword => some "interface"
  | .isKeyword => some "is"
  | .keyOfKeyword => some "keyof"
  | .letKeyword => some "let"
  | .moduleKeyword => some "module"
  | .namespaceKeyword => some "namespace"
  | .neverKeyword => some "never"
  | .numberKeyword => some "number"
  | .objectKeyword => some "object"
  | .ofKeyword => some "of"
  | .packageKeyword => some "package"
  | .privateKeyword => some "private"
  | .protectedKeyword => some "protected"
  | .publicKeyword => some "public"
  | .readonlyKeyword => some "readonly"
  | .satisfiesKeyword => some "satisfies"
  | .setKeyword => some "set"
  | .staticKeyword => some "static"
  | .stringKeyword => some "string"
  | .symbolKeyword => some "symbol"
  | .typeKeyword => some "type"
  | .undefinedKeyword => some "undefined"
  | .uniqueKeyword => some "unique"
  | .unknownKeyword => some "unknown"
  | .yieldKeyword => some "yield"
  | _ => none

/-- A reserved word or a contextual keyword. -/
def isAnyKeyword (k : TokenKind) : Bool :=
  breakKeyword.ctorIdx ≤ k.ctorIdx && k.ctorIdx ≤ yieldKeyword.ctorIdx

/-- A reserved word: a keyword that never names a binding. -/
def isReservedWord (k : TokenKind) : Bool :=
  breakKeyword.ctorIdx ≤ k.ctorIdx && k.ctorIdx ≤ withKeyword.ctorIdx

/-- A contextual keyword: a keyword that may also name a binding. -/
def isContextualKeyword (k : TokenKind) : Bool :=
  withKeyword.ctorIdx < k.ctorIdx && k.ctorIdx ≤ yieldKeyword.ctorIdx

/-- An assignment operator, from `=` to `??=`. -/
def isAssignment (k : TokenKind) : Bool :=
  equalsToken.ctorIdx ≤ k.ctorIdx && k.ctorIdx ≤ questionQuestionEqualsToken.ctorIdx

end TokenKind

/-- The keyword spelled by `word`, if any. -/
def keywordKind? : String → Option TokenKind
  | "break" => some .breakKeyword
  | "case" => some .caseKeyword
  | "catch" => some .catchKeyword
  | "class" => some .classKeyword
  | "const" => some .constKeyword
  | "continue" => some .continueKeyword
  | "debugger" => some .debuggerKeyword
  | "default" => some .defaultKeyword
  | "delete" => some .deleteKeyword
  | "do" => some .doKeyword
  | "else" => some .elseKeyword
  | "enum" => some .enumKeyword
  | "export" => some .exportKeyword
  | "extends" => some .extendsKeyword
  | "false" => some .falseKeyword
  | "finally" => some .finallyKeyword
  | "for" => some .forKeyword
  | "function" => some .functionKeyword
  | "if" => some .ifKeyword
  | "import" => some .importKeyword
  | "in" => some .inKeyword
  | "instanceof" => some .instanceOfKeyword
  | "new" => some .newKeyword
  | "null" => some .nullKeyword
  | "return" => some .returnKeyword
  | "super" => some .superKeyword
  | "switch" => some .switchKeyword
  | "this" => some .thisKeyword
  | "throw" => some .throwKeyword
  | "true" => some .trueKeyword
  | "try" => some .tryKeyword
  | "typeof" => some .typeOfKeyword
  | "var" => some .varKeyword
  | "void" => some .voidKeyword
  | "while" => some .whileKeyword
  | "with" => some .withKeyword
  | "abstract" => some .abstractKeyword
  | "any" => some .anyKeyword
  | "as" => some .asKeyword
  | "asserts" => some .assertsKeyword
  | "async" => some .asyncKeyword
  | "await" => some .awaitKeyword
  | "bigint" => some .bigIntKeyword
  | "boolean" => some .booleanKeyword
  | "declare" => some .declareKeyword
  | "from" => some .fromKeyword
  | "get" => some .getKeyword
  | "implements" => some .implementsKeyword
  | "infer" => some .inferKeyword
  | "interface" => some .interfaceKeyword
  | "is" => some .isKeyword
  | "keyof" => some .keyOfKeyword
  | "let" => some .letKeyword
  | "module" => some .moduleKeyword
  | "namespace" => some .namespaceKeyword
  | "never" => some .neverKeyword
  | "number" => some .numberKeyword
  | "object" => some .objectKeyword
  | "of" => some .ofKeyword
  | "package" => some .packageKeyword
  | "private" => some .privateKeyword
  | "protected" => some .protectedKeyword
  | "public" => some .publicKeyword
  | "readonly" => some .readonlyKeyword
  | "satisfies" => some .satisfiesKeyword
  | "set" => some .setKeyword
  | "static" => some .staticKeyword
  | "string" => some .stringKeyword
  | "symbol" => some .symbolKeyword
  | "type" => some .typeKeyword
  | "undefined" => some .undefinedKeyword
  | "unique" => some .uniqueKeyword
  | "unknown" => some .unknownKeyword
  | "yield" => some .yieldKeyword
  | _ => none

end ParamNarrow
