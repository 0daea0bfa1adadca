import Amalgam.Text.Slice
/-!
# Names in display names

A display name reads `KIND:scope::name(signature)`. The bare name is what stands before the first bracket or blank and
after the last colon there, if that is an identifier and no keyword. A declaration that the parser calls unnamed,
anonymous or a lambda has none.
-/

namespace Amalgam.Symbols

open Amalgam.Text

/-- Words of the language that are never renamed. -/
def keywords : List String :=
  ["alignas", "alignof", "auto", "bool", "break", "case", "catch", "char", "class", "const", "constexpr", "const_cast",
    "continue", "decltype", "default", "delete", "do", "double", "dynamic_cast", "else", "enum", "explicit", "export",
    "extern", "false", "float", "for", "friend", "goto", "if", "inline", "int", "long", "mutable", "namespace", "new",
    "noexcept", "nullptr", "operator", "private", "protected", "public", "register", "reinterpret_cast", "restrict",
    "return", "short", "signed", "sizeof", "static", "static_assert", "static_cast", "struct", "switch", "template",
    "this", "throw", "true", "try", "typedef", "typeid", "typename", "union", "unsigned", "using", "virtual", "void",
    "volatile", "wchar_t", "while", "_Bool", "_Complex", "_Static_assert"]

/-- What opens the display name of a declaration without a name. -/
def unnamedMarks : List (List Char) :=
  ["(unnamed".toList, "(anonymous".toList, "(lambda".toList]

/-- Whether a text starts with a mark that is a whole word. -/
def startsUnnamed (cs : List Char) : Bool :=
  unnamedMarks.any fun mark => mark.isPrefixOf cs && !(cs.drop mark.length).head?.any isWord

/-- Whether a mark of a nameless declaration stands anywhere in a text. -/
def isUnnamed : List Char → Bool
  | [] => false
  | c :: rest => startsUnnamed (c :: rest) || isUnnamed rest

/-- What ends the qualified name: a bracket of the signature or a blank. -/
def endsName (c : Char) : Bool :=
  c = '(' || c = '<' || c = '[' || isBlank c

def startsIdentifier (c : Char) : Bool :=
  c.isAlpha || c = '_'

def isIdentifier : List Char → Bool
  | [] => false
  | c :: rest => startsIdentifier c && rest.all isWord

/-- The part after the last colon, or all of it. -/
def afterLastColon (cs : List Char) : List Char :=
  match splitLast ':' cs with
  | some (_, tail) => tail
  | none => cs

def bareName (displayName : String) : Option String :=
  let cs := trim displayName.toList
  -- A mark counts wherever it stands, also in the signature.
  if isUnnamed cs then none
  else
    let name := afterLastColon (cs.takeWhile fun c => !endsName c)
    if isIdentifier name && !keywords.contains (String.ofList name) then some (String.ofList name) else none

example : bareName "FUNCTION_DECL:foo(int, char)" = some "foo" := by decide
example : bareName "ns::Widget" = some "Widget" := by decide
example : bareName "STRUCT_DECL:struct (unnamed at a.c:1:1)" = none := by decide

end Amalgam.Symbols
