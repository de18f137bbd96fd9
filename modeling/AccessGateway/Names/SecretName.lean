import AccessGateway.Names.Group

/-!
# Names of secrets

A secret is called by a short name inside one group.  The secrets store needs names that are
unique across all groups: the qualified name of the group, `@`, and the short name, which itself
is not blank and holds no `@`.
-/

namespace AccessGateway

structure SecretName where
  short : String
  group : Group
  deriving DecidableEq, Repr

namespace SecretName

/-- A short name is not blank and holds no `@`. -/
def isShortName (s : String) : Bool :=
  !Text.isBlankText s && !s.toList.contains '@'

def ofShort (short : String) (group : Group) : Except NameError SecretName :=
  if isShortName short then .ok ⟨short, group⟩ else .error (.badShortName short)

/-- The name that is unique across all groups. -/
def uniqueName (name : SecretName) : String :=
  name.group.qualifiedName ++ "@" ++ name.short

/-- Reads a unique name: the short name follows the last `@`, the group name the first `_`. -/
def ofUniqueName (unique : String) : Except NameError SecretName :=
  match Text.rsplitOnce? '@' unique with
  | none => .error (.badUniqueName unique)
  | some (qualified, short) =>
    match Text.splitOnce? '_' qualified with
    | none => .error (.badUniqueName unique)
    | some (domainText, groupName) =>
      if groupName.isEmpty then .error (.badUniqueName unique)
      else
        match Domain.ofToken? domainText with
        | none => .error (.badUniqueName unique)
        | some domain => ofShort short (Group.ofName domain groupName)

end SecretName

end AccessGateway
