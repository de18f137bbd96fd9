import AccessGateway.Names.Domain
import AccessGateway.Text.Percent

/-!
# Application groups

A group is the unit that authorization is decided on: a domain and a name, which is split into
an organisation, an assembly and an environment when it has exactly three non-blank segments
between underscores.  `Group.parse` reads a group from a raw text; a raw text of more than three
segments begins with the token of its own domain.
-/

namespace AccessGateway

/-- Why a text does not name a domain, a group or a secret. -/
inductive NameError where
  | unknownDomain (text : String)
  | malformedGroup (raw : String)
  | groupOfUnknownDomain (raw domainText : String)
  | badShortName (name : String)
  | badUniqueName (name : String)
  deriving DecidableEq, Repr

namespace NameError

def groupPattern : String := "org_assembly_env or domain_org_assembly_env"

def unknownDomainMessage (text : String) : String :=
  "Unknown domain '" ++ text ++ "', expected one of: " ++ Domain.tokenList

def message : NameError → String
  | .unknownDomain text => unknownDomainMessage text
  | .malformedGroup raw =>
    "Invalid application group '" ++ raw ++ "', expected " ++ groupPattern
  | .groupOfUnknownDomain raw domainText =>
    "Invalid application group '" ++ raw ++ "': Invalid format: " ++
      unknownDomainMessage domainText ++ "; expected " ++ groupPattern
  | .badShortName name =>
    "Invalid secret name '" ++ name ++ "', must be non-blank and must not contain '@'"
  | .badUniqueName name =>
    "Invalid unique secret name '" ++ name ++ "', expected domain_group@name"

end NameError

def Domain.parse (s : String) : Except NameError Domain :=
  match Domain.ofToken? s with
  | some domain => .ok domain
  | none => .error (.unknownDomain s)

structure GroupParts where
  org : String
  assembly : String
  env : String
  deriving DecidableEq, Repr

/-- The three non-blank segments of a name, if it has exactly these. -/
def GroupParts.ofName? (name : String) : Option GroupParts :=
  match Text.split '_' name with
  | [org, assembly, env] =>
    if [org, assembly, env].any Text.isBlankText then none else some ⟨org, assembly, env⟩
  | _ => none

/-- A group; its parts are those of its name. -/
structure Group where
  domain : Domain
  name : String
  parts : Option GroupParts
  parts_eq : parts = GroupParts.ofName? name
  deriving DecidableEq, Repr

namespace Group

/-- The group with a name that carries no domain. -/
def ofName (domain : Domain) (name : String) : Group :=
  ⟨domain, name, GroupParts.ofName? name, rfl⟩

/-- Reads a raw text in the name of a caller of the given domain. -/
def parse (caller : Domain) (raw : String) : Except NameError Group :=
  match Text.split '_' raw with
  | [org, assembly, env] =>
    if [org, assembly, env].any Text.isBlankText then .error (.malformedGroup raw)
    else .ok (ofName caller raw)
  | first :: a :: b :: c :: rest =>
    match Domain.ofToken? first with
    | some domain => .ok (ofName domain ("_".intercalate (a :: b :: c :: rest)))
    | none => .error (.groupOfUnknownDomain raw first)
  | _ => .error (.malformedGroup raw)

/-- A path that identifies the group, each segment percent-coded. -/
def canonicalPath (group : Group) : String :=
  match group.parts with
  | some parts =>
    "/" ++ group.domain.token ++ "/" ++ Text.Percent.encode parts.org ++ "/" ++
      Text.Percent.encode parts.assembly ++ "/" ++ Text.Percent.encode parts.env
  | none => "/" ++ group.domain.token ++ "/" ++ Text.Percent.encode group.name

/-- The name of the group in the secrets store. -/
def qualifiedName (group : Group) : String :=
  group.domain.token ++ "_" ++ group.name

@[simp] theorem domain_ofName (domain : Domain) (name : String) :
    (ofName domain name).domain = domain := rfl

@[simp] theorem name_ofName (domain : Domain) (name : String) :
    (ofName domain name).name = name := rfl

/-- A group is determined by its domain and its name. -/
theorem eq_ofName (group : Group) : group = ofName group.domain group.name := by
  obtain ⟨domain, name, parts, rfl⟩ := group
  rfl

theorem eq_of_domain_of_name {a b : Group} (hdomain : a.domain = b.domain)
    (hname : a.name = b.name) : a = b := by
  rw [a.eq_ofName, b.eq_ofName, hdomain, hname]

end Group

end AccessGateway
