import RegisterMap.Xml.Token

/-!
# Namespaces

A prefix stands for the namespace that the nearest enclosing element declares for it. Elements
without a prefix are in the default namespace; attributes without a prefix are in none.

## Main definitions

* `Scope` : the namespaces of prefixes at some place.
* `Scope.extend?` : the scope inside an element.
* `Scope.elementName?`, `Scope.attributes?` : names with their namespaces.
-/

namespace RegisterMap.Xml

/-- The namespaces that prefixes stand for, the innermost declaration first. The empty prefix is
that of the default namespace. -/
abbrev Scope := List (String × String)

/-- The namespace of the names that XML itself reserves. -/
def xmlNamespace : String := "http://www.w3.org/XML/1998/namespace"

/-- The namespace of namespace declarations, which no prefix may stand for. -/
def declarationNamespace : String := "http://www.w3.org/2000/xmlns/"

/-- The scope around the outermost element. -/
def Scope.outermost : Scope := [("xml", xmlNamespace)]

/-- Name in a namespace as one text; the empty namespace is no namespace. -/
def expandedName (namespaceName base : String) : String :=
  if namespaceName = "" then base else "\x7b" ++ namespaceName ++ "\x7d" ++ base

/-- The prefix that an attribute declares a namespace for, if it is a declaration. -/
def declaredPrefix? (name : QName) : Option String :=
  if name.pre = "" ∧ name.base = "xmlns" then some ""
  else if name.pre = "xmlns" then some name.base
  else none

/-- A prefix may be declared to stand for a namespace. Only the default namespace may be empty, the
reserved prefix and its namespace go together, and a brace would end the name of the namespace. -/
def isDeclarable (pre namespaceName : String) : Bool :=
  (namespaceName != "" || pre == "") && pre != "xmlns" &&
    ((pre == "xml") == (namespaceName == xmlNamespace)) &&
    namespaceName != declarationNamespace && !namespaceName.toList.contains '\x7d'

/-- The scope inside an element with the given attributes. -/
def Scope.extend? (scope : Scope) (attributes : List (QName × String)) : Option Scope :=
  attributes.foldlM
    (fun scope (name, value) =>
      match declaredPrefix? name with
      | none => some scope
      | some pre => if isDeclarable pre value then some ((pre, value) :: scope) else none)
    scope

/-- Tag of an element; a prefix must be declared. -/
def Scope.elementName? (scope : Scope) (name : QName) : Option String :=
  match scope.lookup name.pre with
  | some namespaceName => some (expandedName namespaceName name.base)
  | none => if name.pre = "" then some name.base else none

/-- Name of an attribute; a prefix must be declared. -/
def Scope.attributeName? (scope : Scope) (name : QName) : Option String :=
  if name.pre = "" then some name.base
  else (scope.lookup name.pre).map fun namespaceName => expandedName namespaceName name.base

/-- All names of a list differ. -/
def allDistinct {α : Type} [BEq α] : List α → Bool
  | [] => true
  | a :: as => !as.contains a && allDistinct as

/-- The attributes of an element that are no declarations, under their full names; no name may
occur twice. -/
def Scope.attributes? (scope : Scope) (attributes : List (QName × String)) :
    Option (List (String × String)) := do
  let named ← (attributes.filter fun a => (declaredPrefix? a.1).isNone).mapM fun (name, value) =>
    (scope.attributeName? name).map fun full => (full, value)
  if allDistinct (attributes.map (·.1)) && allDistinct (named.map (·.1)) then some named else none

end RegisterMap.Xml
