import SqlDialect.Url.Password

/-!
# Credentials in front of a host

Some addresses have user and password in front of the host: `:variant:user/password@host`, where
the variant says which driver is meant. The password is replaced by four stars. The variant reaches
to the next colon, the user to the next slash and the password to the next at sign; where one of
these marks is missing nothing is masked.

## One pass

As with parameters, the address is passed once. The decision falls at the colon before the variant,
by looking ahead to the at sign. Behind the at sign the search goes on.

What the pass carries out is a replacement. For the thin driver, every match of
`(:thin:[^/]*)/[^@]*@` becomes what is in parentheses, a slash, four stars and the at sign, from
left to right; for the call-interface driver, every match of `(:oci[^:]*:[^/]*)/[^@]*@`.

## Main definitions

* `CredentialMask.apply` — an address with its passwords masked, for the variants of one kind
* `CredentialMask.thin`, `CredentialMask.oci` — the two kinds of variants
-/

namespace SqlDialect

namespace CredentialMask

/-- Where a character stands. -/
inductive Place where
  /-- Outside credentials. -/
  | elsewhere
  /-- In the variant. -/
  | variant
  /-- In the user. -/
  | user
  /-- In the password. -/
  | password
  deriving DecidableEq

/-- What follows the first `mark` in a text. -/
def behind? (mark : Char) (text : Text) : Option Text := (text.dropWhile (· != mark)).tail?

/-- Whether a text starts with a variant of the kind, a user and a password with their marks. -/
def credentialsAhead (kind : Text → Bool) (text : Text) : Bool :=
  kind (text.takeWhile (· != ':')) &&
    ((behind? ':' text).bind fun rest => (behind? '/' rest).bind (behind? '@')).isSome

/-- The rest of an address when its first character stands at `place`. -/
def applyFrom (kind : Text → Bool) : Place → Text → Text
  | _, [] => []
  | .elsewhere, c :: rest =>
    c :: applyFrom kind (if c == ':' && credentialsAhead kind rest then .variant else .elsewhere)
      rest
  | .variant, c :: rest => c :: applyFrom kind (if c = ':' then .user else .variant) rest
  | .user, c :: rest =>
    if c = '/' then c :: stars ++ applyFrom kind .password rest
    else c :: applyFrom kind .user rest
  | .password, c :: rest =>
    if c = '@' then c :: applyFrom kind .elsewhere rest else applyFrom kind .password rest

/-- `url` with the passwords masked that stand behind variants of a kind: every match of
`(:variant:[^/]*)/[^@]*@`, for a variant of the kind without a colon, is replaced by what is in
parentheses, a slash, four stars and the at sign. -/
def apply (kind : Text → Bool) (url : Text) : Text := applyFrom kind .elsewhere url

/-- The variant of the thin driver: `thin`. -/
def thin (variant : Text) : Bool := variant == ("thin" : Text)

/-- The variants of the call-interface driver, whose names begin alike: `oci[^:]*`. -/
def oci (variant : Text) : Bool := ("oci" : Text).isPrefixOf variant

example : apply thin "a:thin:scott/tiger@db:1521/svc" = "a:thin:scott/****@db:1521/svc" := by
  decide

example : apply thin "a:thin:@db:1521/svc" = "a:thin:@db:1521/svc" := by decide

end CredentialMask

end SqlDialect
