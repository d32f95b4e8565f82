import BucketGuard.Configuration

namespace BucketGuard

/-! Names of policy statements. Four names belong to the baseline. A custom statement that was given
no name is named by its position among the custom statements. -/

namespace Sid

def insecureTransport : String := "DenyInsecureTransport"

def trustedPrincipals : String := "AllowTrustedPrincipals"

def unencryptedUploads : String := "DenyUnencryptedObjectUploads"

def incorrectKey : String := "DenyIncorrectEncryptionKey"

def baseline : List String :=
  [insecureTransport, trustedPrincipals, unencryptedUploads, incorrectKey]

/-- The name of an unnamed statement; positions count from one. -/
def generated (position : Nat) : String := s!"CustomStatement{position}"

/-- The name under which the statement at an index is emitted, if what was given makes a name. -/
def emitted? (index : Nat) : Json → Option String
  | .null => some (generated (index + 1))
  | .str text => if text = "" then none else some text
  | _ => none

end Sid

end BucketGuard
