import SqlDialect.Dialect
import SqlDialect.Url.Credential
import SqlDialect.Url.Password

/-!
# Connection addresses

An address names the kind of database before its first colon, the subprotocol, and everything else
after it. A leading `jdbc:`, in whatever case, does not count. In what is shown of an address its
secrets are masked: passwords in parameters always, and by a dialect also those that its vendor
puts elsewhere.

## Main definitions

* `ConnectionUrl`, `ConnectionUrl.parse` — the parts of an address
* `Dialect.maskUrl` — an address with all its secrets masked
-/

namespace SqlDialect

/-- The parts of an address. -/
structure ConnectionUrl where
  /-- The kind of database, in lower case. -/
  subprotocol : Text
  /-- What follows the kind of database. -/
  subname : Text
  /-- The address with the passwords in parameters masked. -/
  masked : Text
  deriving DecidableEq

namespace ConnectionUrl

/-- The mark that may stand in front of an address. -/
def scheme : Text := "jdbc:"

/-- `url` without the leading mark, if it has it. -/
def withoutScheme (url : Text) : Text :=
  if Text.eqIgnoringAsciiCase (url.take scheme.length) scheme then url.drop scheme.length else url

/-- The parts of an address. It needs a colon with something in front. -/
def parse (url : Text) : Except Error ConnectionUrl :=
  let masked := PasswordMask.apply url
  match Text.splitOnce ":" (withoutScheme url) with
  | some (c :: subprotocol, subname) => .ok ⟨Text.asciiLower (c :: subprotocol), subname, masked⟩
  | _ => .error (.invalidUrl masked)

end ConnectionUrl

/-- `url` with the secrets masked that only the vendor knows of. -/
def Vendor.maskUrl (v : Vendor) (url : Text) : Text :=
  match v with
  | .generic => url
  | .oracle => CredentialMask.apply CredentialMask.oci (CredentialMask.apply CredentialMask.thin url)

/-- `url` with its secrets masked. -/
def Dialect.maskUrl (d : Dialect) (url : Text) : Text := d.vendor.maskUrl (PasswordMask.apply url)

end SqlDialect
