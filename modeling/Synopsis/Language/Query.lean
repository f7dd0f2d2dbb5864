import Synopsis.Language.Basic

namespace Synopsis

/-!
# Capture queries

* `Language.query` — which nodes of a parsed source are captured, and under which tags.
-/

/-- What is captured in TypeScript, with or without markup. -/
def typeScriptQuery : Text :=
  "
(comment) @comment
(import_statement) @definition.import
(function_declaration) @definition.function
(generator_function_declaration) @definition.function
(lexical_declaration (variable_declarator value: (arrow_function))) @definition.function
(function_signature) @definition.function
(method_definition) @definition.method
(abstract_method_signature) @definition.method
(class_declaration) @definition.class
(abstract_class_declaration) @definition.class
(interface_declaration) @definition.interface
(type_alias_declaration) @definition.type
(enum_declaration) @definition.enum
(public_field_definition) @definition.property
".toList

/-- What is captured in JavaScript, with or without markup. -/
def javaScriptQuery : Text :=
  "
(comment) @comment
(import_statement) @definition.import
(function_declaration) @definition.function
(generator_function_declaration) @definition.function
(lexical_declaration (variable_declarator value: (arrow_function))) @definition.function
(method_definition) @definition.method
(class_declaration) @definition.class
(field_definition) @definition.property
".toList

/-- What is captured in Python. -/
def pythonQuery : Text :=
  "
(comment) @comment
(import_statement) @definition.import
(import_from_statement) @definition.import
(function_definition) @definition.function
(class_definition) @definition.class
".toList

/-- What is captured in Rust. -/
def rustQuery : Text :=
  "
(line_comment) @comment
(block_comment) @comment
(use_declaration) @definition.import
(function_item) @definition.function
(function_signature_item) @definition.method
(impl_item) @definition.class
(trait_item) @definition.class
(struct_item) @definition.type
(enum_item) @definition.enum
(type_item) @definition.type
".toList

/-- What is captured in Go. -/
def goQuery : Text :=
  "
(comment) @comment
(import_declaration) @definition.import
(function_declaration) @definition.function
(method_declaration) @definition.method
(type_declaration) @definition.type
".toList

/-- What is captured in C. -/
def cQuery : Text :=
  "
(comment) @comment
(preproc_include) @definition.import
(function_definition) @definition.function
(declaration declarator: (function_declarator)) @definition.function
(type_definition) @definition.type
".toList

/-- The capture query of a language. -/
def Language.query : Language → Text
  | .typeScript | .typeScriptMarkup => typeScriptQuery
  | .javaScript | .javaScriptMarkup => javaScriptQuery
  | .python => pythonQuery
  | .rust => rustQuery
  | .go => goQuery
  | .c => cQuery

end Synopsis
