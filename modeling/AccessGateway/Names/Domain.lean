import AccessGateway.Text.Ascii
import AccessGateway.Text.Blank
import AccessGateway.Text.Split

/-!
# Management domains

The ten domains a group or a principal can belong to, each with its token: lower case words
joined by hyphens.  Reading a token ignores ASCII case and surrounding blanks, and takes an
underscore for a hyphen.
-/

namespace AccessGateway

inductive Domain where
  | prod
  | stg
  | dev
  | mgmt
  | managedProd
  | managedStg
  | managedDev
  | tenantProd
  | tenantStg
  | tenantDev
  deriving DecidableEq, Repr, Inhabited

namespace Domain

/-- All domains, in their order. -/
def all : List Domain :=
  [.prod, .stg, .dev, .mgmt, .managedProd, .managedStg, .managedDev, .tenantProd, .tenantStg,
    .tenantDev]

def token : Domain → String
  | .prod => "prod"
  | .stg => "stg"
  | .dev => "dev"
  | .mgmt => "mgmt"
  | .managedProd => "ms-prod"
  | .managedStg => "ms-stg"
  | .managedDev => "ms-dev"
  | .tenantProd => "tenant-prod"
  | .tenantStg => "tenant-stg"
  | .tenantDev => "tenant-dev"

/-- The spelling a token is compared in. -/
def normalize (s : String) : String :=
  Text.replaceChar '_' '-' (Text.Ascii.lower (Text.trim s))

/-- The domain a token names, in any of its spellings. -/
def ofToken? (s : String) : Option Domain :=
  all.find? fun domain => domain.token == normalize s

def tokenList : String := ", ".intercalate (all.map token)

theorem token_injective {a b : Domain} (h : a.token = b.token) : a = b := by
  cases a <;> cases b <;> first | rfl | (simp [token] at h)

@[simp] theorem ofToken?_token (domain : Domain) : ofToken? domain.token = some domain := by
  cases domain <;> decide +kernel

end Domain

end AccessGateway
