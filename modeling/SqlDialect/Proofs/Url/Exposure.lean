import SqlDialect.Proofs.Url.Parts
import SqlDialect.Proofs.Url.Secrecy

/-!
# What a parsed address shows

The text in which an address is shown is made while it is taken apart, and it is the same whether
that succeeds or not. No dialect is chosen yet, so only the pass over parameters is made. The passes
of a vendor belong to a dialect and come later, if a dialect is asked to mask the address.

## Credentials stay

A pass over parameters does not know credentials in front of a host. Where no parameter opens before
the end of the password they are kept as they are, and the password can be read off the text that is
shown. So two addresses are shown alike only if their passwords are equal. The passes of the vendor
would have made the two texts one.

## Main definitions

* `ConnectionUrl.thinUrl` — the address of a database that the thin driver reaches with credentials

## Main results

* `ConnectionUrl.parse_thinUrl` — the parts of such an address, and the text that is shown of it
* `ConnectionUrl.masked_thinUrl_eq_iff` — when two of them are shown alike
-/

namespace SqlDialect

namespace ConnectionUrl

open CredentialMask

variable {user password password' rest : Text}

/-! ### Credentials -/

/-- The address of a database that the thin driver reaches with credentials; `rest` is the host and
what follows it. -/
def thinUrl (user password rest : Text) : Text :=
  "jdbc:oracle:thin:" ++ user ++ "/" ++ password ++ "@" ++ rest

/-- The credentials behind the kind of database and the variant of the driver. -/
theorem thinUrl_eq (user password rest : Text) :
    thinUrl user password rest
      = "jdbc:oracle" ++ ':' :: ("thin" ++ ':' :: (user ++ '/' :: (password ++ '@' :: rest))) := by
  show "jdbc:oracle:thin:" ++ user ++ "/" ++ password ++ "@" ++ rest = _
  simp

/-- **The parts of an address with credentials.** Nothing in the credentials is masked, only what
follows them. -/
theorem parse_thinUrl (huser : user.Disjoint ['?', '&', ';'])
    (hpassword : password.Disjoint ['?', '&', ';']) (rest : Text) :
    parse (thinUrl user password rest)
      = .ok { subprotocol := "oracle"
              subname := "thin:" ++ user ++ "/" ++ password ++ "@" ++ rest
              masked := thinUrl user password (PasswordMask.apply rest) } := by
  have hparts : Unmarked (thinUrl user password rest)
      ("oracle" ++ ':' :: ("thin:" ++ user ++ "/" ++ password ++ "@" ++ rest)) := by
    have hurl : thinUrl user password rest
        = scheme ++ ("oracle" ++ ':' :: ("thin:" ++ user ++ "/" ++ password ++ "@" ++ rest)) := by
      rw [thinUrl_eq]
      simp [scheme]
    rw [hurl]
    exact .marked isMark_scheme _
  have hmasked : PasswordMask.apply (thinUrl user password rest)
      = thinUrl user password (PasswordMask.apply rest) := by
    have hfront : ("jdbc:oracle:thin:" ++ user ++ "/" ++ password ++ "@").Disjoint
        ['?', '&', ';'] := by
      simp only [List.disjoint_append_left]
      exact ⟨⟨⟨⟨by simp, huser⟩, by simp⟩, hpassword⟩, by simp⟩
    exact PasswordMask.apply_append hfront rest
  rw [parse_of_unmarked hparts (by simp) (by decide), hmasked]
  rfl

/-- The password of credentials can be read off their address. -/
theorem shows_thinUrl (huser : '/' ∉ user) (hpassword : '@' ∉ password) (rest : Text) :
    Shows thin (thinUrl user password rest) password :=
  ⟨"jdbc:oracle", "thin", user, rest, thinUrl_eq user password rest, rfl, by decide, huser,
    hpassword⟩

theorem thinUrl_inj : thinUrl user password rest = thinUrl user password' rest ↔
    password = password' := by
  simp [thinUrl_eq]

/-- The passes of the vendor leave no trace of the password. -/
theorem maskUrl_thinUrl (huser : user.Disjoint ['/', '@']) (hpassword : '@' ∉ password)
    (hpassword' : '@' ∉ password') (rest : Text) :
    Vendor.oracle.maskUrl (thinUrl user password rest)
      = Vendor.oracle.maskUrl (thinUrl user password' rest) := by
  rw [thinUrl_eq, thinUrl_eq]
  exact congrArg (apply oci)
    (applyFrom_secret_eq rfl (by simp) huser hpassword hpassword' "jdbc:oracle" rest .elsewhere)

/-- **Addresses with credentials are shown alike only if their passwords are equal.** The password
can be read off the text that is shown, which the passes of the vendor would have masked. -/
theorem masked_thinUrl_eq_iff (huser : user.Disjoint ['/', '@', '?', '&', ';'])
    (hpassword : password.Disjoint ['@', '?', '&', ';'])
    (hpassword' : password'.Disjoint ['@', '?', '&', ';']) (rest : Text) :
    ∃ parts parts', parse (thinUrl user password rest) = .ok parts ∧
      parse (thinUrl user password' rest) = .ok parts' ∧
      (parts.masked = parts'.masked ↔ password = password') ∧
      Shows thin parts.masked password ∧
      Vendor.oracle.maskUrl parts.masked = Vendor.oracle.maskUrl parts'.masked := by
  have hopened : user.Disjoint ['?', '&', ';'] := List.disjoint_of_subset_right (by simp) huser
  have hmarks : user.Disjoint ['/', '@'] := List.disjoint_of_subset_right (by simp) huser
  have hclosed : password.Disjoint ['?', '&', ';'] :=
    List.disjoint_of_subset_right (by simp) hpassword
  have hclosed' : password'.Disjoint ['?', '&', ';'] :=
    List.disjoint_of_subset_right (by simp) hpassword'
  have hslash : '/' ∉ user := fun h => huser h (by simp)
  have hat : '@' ∉ password := fun h => hpassword h (by simp)
  have hat' : '@' ∉ password' := fun h => hpassword' h (by simp)
  exact ⟨_, _, parse_thinUrl hopened hclosed rest, parse_thinUrl hopened hclosed' rest, thinUrl_inj,
    shows_thinUrl hslash hat _, maskUrl_thinUrl hmarks hat hat' _⟩

/-- Credentials in front of a host with a parameter: its password is masked, theirs is not. -/
theorem masked_thinUrl_eq_iff_scott :
    ∃ parts parts', parse "jdbc:oracle:thin:scott/tiger@db?password=x" = .ok parts ∧
      parse "jdbc:oracle:thin:scott/lion@db?password=x" = .ok parts' ∧
      parts.masked = "jdbc:oracle:thin:scott/tiger@db?password=****" ∧
      parts.masked ≠ parts'.masked ∧ Shows thin parts.masked "tiger" := by
  obtain ⟨parts, parts', hparse, hparse', hiff, hshows, -⟩ :=
    @masked_thinUrl_eq_iff "scott" "tiger" "lion" (by simp) (by simp) (by simp) "db?password=x"
  have hparts := @parse_thinUrl "scott" "tiger" (by simp) (by simp) "db?password=x"
  have hother : ("tiger" : Text) ≠ "lion" := by decide
  refine ⟨parts, parts', hparse, hparse', ?_, fun hsame => hother (hiff.mp hsame), hshows⟩
  rw [Except.ok.inj (hparse.symm.trans hparts)]
  decide

/-- What is shown of an address with credentials is not the same for all passwords. -/
theorem masked_thinUrl_ne :
    ¬ ∀ user password password' rest : Text, user.Disjoint ['/', '@', '?', '&', ';'] →
      password.Disjoint ['@', '?', '&', ';'] → password'.Disjoint ['@', '?', '&', ';'] →
      (parse (thinUrl user password rest)).map masked
        = (parse (thinUrl user password' rest)).map masked := by
  intro hall
  have hequal := hall "scott" "tiger" "lion" "db:1521/svc" (by simp) (by simp) (by simp)
  rw [parse_thinUrl (by simp) (by simp), parse_thinUrl (by simp) (by simp)] at hequal
  have hsame : ("tiger" : Text) = "lion" := thinUrl_inj.mp (Except.ok.inj hequal)
  exact absurd hsame (by decide)

end ConnectionUrl

end SqlDialect
