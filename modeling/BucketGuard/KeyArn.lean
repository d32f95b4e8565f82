import BucketGuard.Text.DecimalDigit
import BucketGuard.Text.Parts

namespace BucketGuard

/-! Names of encryption keys. Six fields are set apart by colons: a scheme, a partition, a service,
a region, an account and a key. One line break may follow the name. -/

structure KeyArn where
  partition : List Char
  region : List Char
  account : List Char
  key : List Char
  deriving DecidableEq, Repr

namespace KeyArn

/-- The partition `aws`, with any number of words of lower-case letters behind hyphens. -/
def isPartition (partition : List Char) : Bool :=
  match Text.splitOn '-' partition with
  | first :: words =>
      first = ['a', 'w', 's'] && words.all fun word => !word.isEmpty && word.all Text.isLowerLetter
  | [] => false

def isRegion (region : List Char) : Bool :=
  !region.isEmpty && region.all Text.isNameCharacter

/-- Twelve decimal digits of any script. -/
def isAccount (account : List Char) : Bool :=
  account.length = 12 && account.all Text.isDecimalDigit

/-- A key of several regions has one long word behind its mark; any other key has the five words of
a universally unique identifier. -/
def isKey (key : List Char) : Bool :=
  match Text.splitOn '-' key with
  | [mark, word] =>
      mark = ['m', 'r', 'k'] && word.length = 32 && word.all Text.isLowerHexadecimal
  | words =>
      words.map List.length = [8, 4, 4, 4, 12] &&
        words.all fun word => word.all Text.isLowerHexadecimal

def parse? (name : String) : Option KeyArn :=
  match Text.splitOn ':' (Text.withoutFinalBreak name.toList) with
  | [scheme, partition, service, region, account, resource] =>
      match resource with
      | 'k' :: 'e' :: 'y' :: '/' :: key =>
          if scheme = ['a', 'r', 'n'] && isPartition partition && service = ['k', 'm', 's'] &&
              isRegion region && isAccount account && isKey key then
            some { partition, region, account, key }
          else none
      | _ => none
  | _ => none

end KeyArn

end BucketGuard
