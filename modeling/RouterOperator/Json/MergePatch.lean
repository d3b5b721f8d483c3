import RouterOperator.Json.Basic

/-!
# Merge patches

Applying a patch in the JSON merge patch format: objects are merged member by member, `null` removes
a member, and any other value, arrays included, replaces what was there.
-/

namespace RouterOperator.Json

/-- The members a patch starts from: those of an object, none for any other value. -/
def membersOrNone : Json → List (String × Json)
  | object members => members
  | _ => []

/-- Whether a value is `null`. -/
def isNull : Json → Bool
  | null => true
  | _ => false

mutual

/-- Applies a merge patch to a value. -/
def mergePatch (patch : Json) (target : Json) : Json :=
  match patch with
  | object changes => object (mergeMembers changes target.membersOrNone)
  | null => null
  | bool value => bool value
  | integer value => integer value
  | decimal negative value => decimal negative value
  | string value => string value
  | array items => array items
  | unreadable => unreadable

/-- Applies the members of a patch one after another. -/
def mergeMembers (changes : List (String × Json)) (members : List (String × Json)) :
    List (String × Json) :=
  match changes with
  | [] => members
  | (key, patch) :: rest =>
    mergeMembers rest <|
      if patch.isNull then Dict.drop key members
      else Dict.put key (mergePatch patch ((members.lookup key).getD null)) members

end

end RouterOperator.Json
