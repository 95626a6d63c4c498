import GoSurvey.Source.Place

/-!
# The outline of a source file

What the survey has to know of a parsed file: its declarations with the comments between them.

* `TypeExpr` — a type with its place and its text;
* `Field`, `Signature`, `TypeDecl` — the parts of declarations;
* `Sibling` — an element of a list in which comments stand between the items;
* `File` — a whole file.

A comment is an element of the innermost list that it is written in: the file, a group of type
declarations or the body of an interface. Comments inside an item are not kept; that there are
some is all that counts (`File.hidesComment`).
-/

namespace GoSurvey
namespace Source

/-! ## Types -/

/-- The kinds of type expressions that are neither names nor pointers. -/
inductive TypeKind where
  | slice
  | array
  | map
  | channel
  | function
  | struct
  | interface
  | generic
  | parenthesized
  | negated
deriving DecidableEq

def TypeKind.label : TypeKind → String
  | slice => "slice_type"
  | array => "array_type"
  | map => "map_type"
  | channel => "channel_type"
  | function => "function_type"
  | struct => "struct_type"
  | interface => "interface_type"
  | generic => "generic_type"
  | parenthesized => "parenthesized_type"
  | negated => "negated_type"

/-- The outer form of a type expression. -/
inductive TypeForm where
  | name (id : String)
  | qualified (package id : String)
  /-- A star and its target; `commented` tells whether a comment stands between them. -/
  | pointer (commented : Bool) (target : TypeForm)
  | other (kind : TypeKind)
deriving DecidableEq

/-- A type expression: where it starts, how it is written, and its form. -/
structure TypeExpr where
  start : Place
  text : String
  form : TypeForm
deriving DecidableEq

/-! ## Struct fields -/

structure TagLiteral where
  start : Place
  text : String
deriving DecidableEq

inductive Field where
  | named (first : String) (more : List String) (type : TypeExpr) (tag : Option TagLiteral)
  | embedded (star : Bool) (type : TypeExpr) (tag : Option TagLiteral)
deriving DecidableEq

/-! ## Signatures -/

/-- An item of a parameter list: the names that share a type, or a type without a name. -/
structure ParamItem where
  start : Place
  names : List String
  variadic : Bool
  type : TypeExpr
deriving DecidableEq

/-- What a function returns: nothing, one type, or a list in parentheses. -/
inductive ResultSpec where
  | absent
  | single (type : TypeExpr)
  | list (items : List ParamItem)
deriving DecidableEq

/-- Parameters and result of a function or method. -/
structure Signature where
  params : List ParamItem
  result : ResultSpec
deriving DecidableEq

/-! ## Lists with comments -/

/-- A comment as it is written, with the rows on which it starts and ends. -/
structure Comment where
  text : String
  startRow : Nat
  endRow : Nat
deriving DecidableEq

/-- An element of a list of declarations: a comment, or an item with the rows on which it starts
and ends. -/
inductive Sibling (α : Type) where
  | comment (c : Comment)
  | item (startRow endRow : Nat) (value : α)
deriving DecidableEq

def Sibling.isComment {α : Type} : Sibling α → Bool
  | comment _ => true
  | item _ _ _ => false

/-! ## Declarations -/

/-- An element of the body of an interface. -/
inductive Element where
  | method (name : String) (signature : Signature)
  /-- An embedded type or a union. -/
  | constraint
deriving DecidableEq

/-- The type that a type declaration gives a name to. -/
inductive TypeBody where
  | struct (start : Place) (fields : List Field)
  | interface (start : Place) (elements : List (Sibling Element))
  | other
deriving DecidableEq

inductive TypeDecl where
  | spec (name : String) (body : TypeBody)
  /-- Another name for a type, declared with an equals sign. -/
  | synonym (name : String)
deriving DecidableEq

inductive Decl where
  | package (name : String)
  | types (entries : List (Sibling TypeDecl))
  | function (start : Place) (name : String) (signature : Signature)
  | method (receiver : List ParamItem) (name : String) (signature : Signature)
  /-- An import, a variable or constant, or a statement. -/
  | other
deriving DecidableEq

/-- A parsed file: its items with the comments between them, and whether there are comments
inside the items too. -/
structure File where
  items : List (Sibling Decl)
  hidesComment : Bool
deriving DecidableEq

/-! ## Comments of a file -/

def TypeDecl.hasComment : TypeDecl → Bool
  | spec _ (.interface _ elements) => elements.any Sibling.isComment
  | _ => false

def Sibling.hasComment {α : Type} (inside : α → Bool) : Sibling α → Bool
  | comment _ => true
  | item _ _ value => inside value

def Decl.hasComment : Decl → Bool
  | types entries => entries.any (Sibling.hasComment TypeDecl.hasComment)
  | _ => false

def File.hasComment (f : File) : Bool :=
  f.hidesComment || f.items.any (Sibling.hasComment Decl.hasComment)

def File.packageName? (f : File) : Option String :=
  f.items.findSome? fun
    | .item _ _ (.package name) => some name
    | _ => none

end Source
end GoSurvey
