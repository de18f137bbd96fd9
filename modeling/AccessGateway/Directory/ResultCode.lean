import AccessGateway.Text.Quoted

/-!
# Result codes of a directory

Every answer of a directory server ends with a result code and a diagnostic text.
-/

namespace AccessGateway.ResultCode

def success : Nat := 0

def invalidCredentials : Nat := 49

def names : List (Nat × String) := [
  (0, "success"), (1, "operationsError"), (2, "protocolError"), (3, "timeLimitExceeded"),
  (4, "sizeLimitExceeded"), (5, "compareFalse"), (6, "compareTrue"),
  (7, "authMethodNotSupported"), (8, "strongerAuthRequired"), (10, "referral"),
  (11, "adminLimitExceeded"), (12, "unavailableCriticalExtension"),
  (13, "confidentialityRequired"), (14, "saslBindInProgress"), (16, "noSuchAttribute"),
  (17, "undefinedAttributeType"), (18, "inappropriateMatching"), (19, "constraintViolation"),
  (20, "attributeOrValueExists"), (21, "invalidAttributeSyntax"), (32, "noSuchObject"),
  (33, "aliasProblem"), (34, "invalidDNSyntax"), (36, "aliasDereferencingProblem"),
  (48, "inappropriateAuthentication"), (49, "invalidCredentials"),
  (50, "insufficientAccessRights"), (51, "busy"), (52, "unavailable"),
  (53, "unwillingToPerform"), (54, "loopDetect"), (64, "namingViolation"),
  (65, "objectClassViolation"), (66, "notAllowedOnNonLeaf"), (67, "notAllowedOnRDN"),
  (68, "entryAlreadyExists"), (69, "objectClassModsProhibited"), (71, "affectsMultipleDSAs"),
  (80, "other"), (88, "abandoned"), (122, "assertionFailed")]

def describe (code : Nat) (text : String) : String :=
  "rc=" ++ toString code ++ " (" ++ (names.lookup code).getD "unknown" ++ "), dn: \"\", text: \"" ++
    text ++ "\""

end AccessGateway.ResultCode
