/-
What a node of a syntax tree is. The kinds told apart are those that matter for finding type
declarations, using directives and written types; every other kind is `other`.
-/
namespace Registrar

/-- The keyword that declares a type, or another word for a type from outside the sources. -/
inductive TypeKind where
  | «class» | struct | interface | record | enum | delegate
  | other (word : String)
  deriving DecidableEq, Repr

def TypeKind.word : TypeKind → String
  | .class => "class"
  | .struct => "struct"
  | .interface => "interface"
  | .record => "record"
  | .enum => "enum"
  | .delegate => "delegate"
  | .other word => word

def TypeKind.ofWord : String → TypeKind
  | "class" => .class
  | "struct" => .struct
  | "interface" => .interface
  | "record" => .record
  | "enum" => .enum
  | "delegate" => .delegate
  | word => .other word

theorem TypeKind.word_ofWord (word : String) : (ofWord word).word = word := by
  unfold ofWord
  split <;> rfl

namespace Tree

/-- The kind of a syntax node. -/
inductive Kind where
  | usingDirective
  /-- A namespace with its members in a body. -/
  | namespaceBlock
  /-- A namespace that holds for the rest of the file. -/
  | namespaceFile
  | typeDeclaration (keyword : TypeKind)
  /-- The braces of a type or namespace. -/
  | body
  | baseList
  /-- An entry of a base list that carries constructor arguments. -/
  | baseWithArguments
  | typeParameterList
  | typeParameter
  | identifier
  | genericName
  | typeArguments
  | qualifiedName
  | aliasQualifiedName
  | predefinedType
  | arrayType
  | arrayRank
  | nullableType
  | tupleType
  | tupleElement
  /-- A type that is kept as text only: pointers, function pointers, references. -/
  | otherType
  /-- A part without declarations or directives: comments, attributes, parameters, code. -/
  | closed
  | modifier
  | structWord
  | equalsSign
  | other (label : String)
  deriving DecidableEq, Repr

namespace Kind

/-- The kind that a grammar's label stands for. -/
def ofLabel : String → Kind
  | "using_directive" => .usingDirective
  | "namespace_declaration" => .namespaceBlock
  | "file_scoped_namespace_declaration" => .namespaceFile
  | "class_declaration" => .typeDeclaration .class
  | "struct_declaration" => .typeDeclaration .struct
  | "record_struct_declaration" => .typeDeclaration .struct
  | "interface_declaration" => .typeDeclaration .interface
  | "record_declaration" => .typeDeclaration .record
  | "enum_declaration" => .typeDeclaration .enum
  | "delegate_declaration" => .typeDeclaration .delegate
  | "declaration_list" => .body
  | "enum_member_declaration_list" => .body
  | "base_list" => .baseList
  | "primary_constructor_base_type" => .baseWithArguments
  | "type_parameter_list" => .typeParameterList
  | "type_parameter" => .typeParameter
  | "identifier" => .identifier
  | "generic_name" => .genericName
  | "type_argument_list" => .typeArguments
  | "qualified_name" => .qualifiedName
  | "alias_qualified_name" => .aliasQualifiedName
  | "predefined_type" => .predefinedType
  | "array_type" => .arrayType
  | "array_rank_specifier" => .arrayRank
  | "nullable_type" => .nullableType
  | "tuple_type" => .tupleType
  | "tuple_element" => .tupleElement
  | "pointer_type" => .otherType
  | "function_pointer_type" => .otherType
  | "ref_type" => .otherType
  | "scoped_type" => .otherType
  | "attribute_list" => .closed
  | "comment" => .closed
  | "block" => .closed
  | "arrow_expression_clause" => .closed
  | "parameter_list" => .closed
  | "modifier" => .modifier
  | "partial" => .modifier
  | "struct" => .structWord
  | "=" => .equalsSign
  | label => .other label

/-- A name: simple, generic, dotted, or behind an alias. -/
def isName : Kind → Bool
  | .identifier | .genericName | .qualifiedName | .aliasQualifiedName => true
  | _ => false

/-- A written type. -/
def isType : Kind → Bool
  | .predefinedType | .arrayType | .nullableType | .tupleType | .otherType => true
  | kind => kind.isName

/-- Never holds a type declaration or a directive of a namespace. -/
def isClosed : Kind → Bool
  | .usingDirective | .baseList | .typeParameterList | .closed => true
  | _ => false

end Kind

/-- The part that a node plays in its parent. -/
inductive Role where
  | name | body | qualifier | type | rank
  | other (label : String)
  deriving DecidableEq, Repr

def Role.ofLabel : String → Role
  | "name" => .name
  | "body" => .body
  | "qualifier" => .qualifier
  | "type" => .type
  | "rank" => .rank
  | label => .other label

end Tree

end Registrar
