/-!
# Kinds of tokens, cursors and types

The vocabulary in which a C front-end describes a parsed source.  `TypeKind.spelling` is the
front-end's own name for a kind of type; it appears in messages and in the names of pointers.
-/

namespace HeaderIndex

/-- What a token is. -/
inductive TokenKind where
  | punctuation | keyword | identifier | literal | comment
  deriving DecidableEq, Repr

/-- What a cursor stands for.  Whatever the reader has no use for is `other`. -/
inductive CursorKind where
  | structDecl | unionDecl | enumDecl | fieldDecl | enumConstantDecl | functionDecl
  | parameterDecl | typedefDecl | macroDefinition | macroExpansion
  /-- the missing declaration of a type without one -/
  | noDeclaration
  | other
  deriving DecidableEq, Repr

namespace CursorKind

/-- Structures and unions. -/
def isAggregate (kind : CursorKind) : Bool := kind = structDecl || kind = unionDecl

/-- Structures, unions and enumerations: the declarations with a tag. -/
def isTag (kind : CursorKind) : Bool := kind.isAggregate || kind = enumDecl

theorem isTag_of_isAggregate {kind : CursorKind} (h : kind.isAggregate = true) :
    kind.isTag = true := by
  simp [isTag, h]

end CursorKind

/-- Categories of types. -/
inductive TypeKind where
  | atomic | auto | blockPointer | bool | char16
  | char32 | charSigned | charUnsigned | complex | constantArray
  | dependent | dependentSizedArray | double | elaborated | enum
  | extVector | float | float128 | functionWithoutPrototype | functionPrototype
  | half | ibm128 | incompleteArray | int | int128
  | invalid | long | longDouble | longLong | lvalueReference
  | memberPointer | nullPtr | objcClass | objcId | objcInterface
  | objcObjectPointer | objcSelector | overload | pipe | pointer
  | record | rvalueReference | signedChar | short | typedef
  | unsignedChar | unsignedInt | unsignedInt128 | unsignedLong | unsignedLongLong
  | unexposed | unsignedShort | variableArray | vector | void
  | wideChar
  deriving DecidableEq, Repr

namespace TypeKind

/-- The front-end's name of a kind. -/
def spelling : TypeKind → String
  | .atomic => "Atomic"
  | .auto => "Auto"
  | .blockPointer => "BlockPointer"
  | .bool => "Bool"
  | .char16 => "Char16"
  | .char32 => "Char32"
  | .charSigned => "Char_S"
  | .charUnsigned => "Char_U"
  | .complex => "Complex"
  | .constantArray => "ConstantArray"
  | .dependent => "Dependent"
  | .dependentSizedArray => "DependentSizedArray"
  | .double => "Double"
  | .elaborated => "Elaborated"
  | .enum => "Enum"
  | .extVector => "ExtVector"
  | .float => "Float"
  | .float128 => "Float128"
  | .functionWithoutPrototype => "FunctionNoProto"
  | .functionPrototype => "FunctionProto"
  | .half => "Half"
  | .ibm128 => "Ibm128"
  | .incompleteArray => "IncompleteArray"
  | .int => "Int"
  | .int128 => "Int128"
  | .invalid => "Invalid"
  | .long => "Long"
  | .longDouble => "LongDouble"
  | .longLong => "LongLong"
  | .lvalueReference => "LValueReference"
  | .memberPointer => "MemberPointer"
  | .nullPtr => "NullPtr"
  | .objcClass => "ObjCClass"
  | .objcId => "ObjCId"
  | .objcInterface => "ObjCInterface"
  | .objcObjectPointer => "ObjCObjectPointer"
  | .objcSelector => "ObjCSel"
  | .overload => "Overload"
  | .pipe => "Pipe"
  | .pointer => "Pointer"
  | .record => "Record"
  | .rvalueReference => "RValueReference"
  | .signedChar => "SChar"
  | .short => "Short"
  | .typedef => "Typedef"
  | .unsignedChar => "UChar"
  | .unsignedInt => "UInt"
  | .unsignedInt128 => "UInt128"
  | .unsignedLong => "ULong"
  | .unsignedLongLong => "ULongLong"
  | .unexposed => "Unexposed"
  | .unsignedShort => "UShort"
  | .variableArray => "VariableArray"
  | .vector => "Vector"
  | .void => "Void"
  | .wideChar => "WChar"

/-- All kinds. -/
def all : List TypeKind := [
  .atomic, .auto, .blockPointer, .bool, .char16,
  .char32, .charSigned, .charUnsigned, .complex, .constantArray,
  .dependent, .dependentSizedArray, .double, .elaborated, .enum,
  .extVector, .float, .float128, .functionWithoutPrototype, .functionPrototype,
  .half, .ibm128, .incompleteArray, .int, .int128,
  .invalid, .long, .longDouble, .longLong, .lvalueReference,
  .memberPointer, .nullPtr, .objcClass, .objcId, .objcInterface,
  .objcObjectPointer, .objcSelector, .overload, .pipe, .pointer,
  .record, .rvalueReference, .signedChar, .short, .typedef,
  .unsignedChar, .unsignedInt, .unsignedInt128, .unsignedLong, .unsignedLongLong,
  .unexposed, .unsignedShort, .variableArray, .vector, .void,
  .wideChar]

/-- The kinds of scalars that have a direct counterpart in any target. -/
def isPrimitive (kind : TypeKind) : Bool :=
  kind ∈ [void, bool, charUnsigned, unsignedChar, unsignedShort, unsignedInt, unsignedLong,
    unsignedLongLong, charSigned, signedChar, short, int, long, longLong, float, double]

/-- Plain `char`, which is signed or not depending on the platform. -/
def isPlainChar (kind : TypeKind) : Bool := kind = charSigned || kind = charUnsigned

/-- Functions with and without a prototype. -/
def isFunction (kind : TypeKind) : Bool := kind = functionPrototype || kind = functionWithoutPrototype

/-- Arrays without a constant length. -/
def isUnsizedArray (kind : TypeKind) : Bool := kind = incompleteArray || kind = variableArray

/-- A primitive kind as one lower-case word. -/
def word (kind : TypeKind) : String := kind.spelling.map Char.toLower

end TypeKind

end HeaderIndex
