import CodeBehind.Syntax.Basic

/-!
# Imports

Which imports a type needs, from the names it mentions.

A fixed table says which namespace declares a name; names it does not list need no import. The imports of a
list of names are those namespaces in the order in which import lines are written, so they do not depend on
the order in which the names were met, nor on how often.

## Main definitions

* `namespaceOf?`: The namespace that declares a name.
* `importOrder`: The order of import lines.
* `referencedTypes`: The names that members mention.
* `collectImports`: The imports that names need.
-/

namespace CodeBehind

namespace Syntax

/-- The namespace of the engine. -/
def engineNamespace : String := "UnityEngine"

/-- The namespace of the user-interface elements. -/
def elementsNamespace : String := "UnityEngine.UIElements"

/-- The base type of every generated class. -/
def hostType : String := "MonoBehaviour"

/-- The type of a UI document. -/
def documentType : String := "UIDocument"

/-- The type of the elements of a document. -/
def elementType : String := "VisualElement"

/-- The attribute that makes a private field part of a saved scene. -/
def serializedAttribute : String := "SerializeField"

/-- The namespaces of the names that need one. -/
def knownNames : List (String × String) := [
  (hostType, engineNamespace),
  (serializedAttribute, engineNamespace),
  (documentType, elementsNamespace),
  (elementType, elementsNamespace)]

/-- The namespace that declares a name. -/
def namespaceOf? (name : String) : Option String :=
  knownNames.lookup name

/-- The order in which imports are written. -/
def importOrder : List String := [engineNamespace, elementsNamespace]

/-- The names a member mentions, in the order in which they are written. -/
def Member.referencedTypes (member : Member) : List String :=
  member.attributes ++ [member.typeName]

/-- The names that members mention. -/
def referencedTypes (members : List Member) : List String :=
  members.flatMap Member.referencedTypes

/-- The imports that names need. -/
def collectImports (names : List String) : List String :=
  importOrder.filter fun needed => names.any fun name => namespaceOf? name == some needed

end Syntax

end CodeBehind
