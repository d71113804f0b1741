import SqlDialect.Proofs.Url.Twice

/-!
# Addresses that a mask leaves alone

Each mask alone settles with its first pass: what it has made of an address it leaves alone. This
holds for the mask over parameters and for the two passes of a vendor taken as one mask, and it does
not hold for both in turn (`Dialect.maskUrl_maskUrl_eq_iff`).

## What settles an address

That a mask leaves its own work alone would be true of one that does nothing. So the addresses that
it leaves alone are told apart from all others. For parameters they are the masked ones, in which
every password reads as four stars. For a vendor they are those that each of its passes leaves
alone: no pass turns what another one has made of an address back into that address, since hiding
leaves less to mask (`Starred.eq_of_disorder_le`).

## Main results

* `PasswordMask.apply_eq_self_iff`, `Vendor.oracle_maskUrl_eq_self_iff` — what is left alone
* `Vendor.masks_settle` — one pass of each mask is enough
-/

namespace SqlDialect

variable {url : Text}

/-- The mask over parameters leaves an address alone exactly if nothing in it is left to mask. -/
theorem PasswordMask.apply_eq_self_iff : apply url = url ↔ Masked url := by
  refine ⟨fun h => ?_, apply_eq_self⟩
  have hmasked : Masked (apply url) := masked_apply url
  rwa [h] at hmasked

/-- So does a pass over credentials whose variants have no slash in them. -/
theorem CredentialMask.apply_eq_self_iff {kind : Text → Bool} (hkind : SlashFree kind) :
    apply kind url = url ↔ Masked kind url := by
  refine ⟨fun h => ?_, apply_eq_self⟩
  have hmasked : Masked kind (apply kind url) := masked_applyFrom hkind (.inl rfl) .elsewhere
  rwa [h] at hmasked

namespace Vendor

open CredentialMask

/-- The first pass leaves alone what both passes leave as it is: the second one cannot have brought
it back. -/
theorem apply_thin_eq_self_of_maskUrl (h : Vendor.oracle.maskUrl url = url) :
    CredentialMask.apply thin url = url := by
  have hthin := starred_apply thin url
  have hoci := starred_apply oci (CredentialMask.apply thin url)
  have hback : CredentialMask.apply oci (CredentialMask.apply thin url) = url := h
  have hless := hoci.disorder_le (by decide) 0
  rw [hback] at hless
  exact hthin.eq_of_disorder_le (by decide) hless

theorem oracle_maskUrl_eq_self_iff : Vendor.oracle.maskUrl url = url ↔
    CredentialMask.Masked thin url ∧ CredentialMask.apply oci url = url := by
  rw [← CredentialMask.apply_eq_self_iff slashFree_thin]
  constructor
  · intro h
    have hthin := apply_thin_eq_self_of_maskUrl h
    refine ⟨hthin, ?_⟩
    rw [maskUrl, hthin] at h
    exact h
  · rintro ⟨hthin, hoci⟩
    rw [maskUrl, hthin, hoci]

/-- **One pass of each mask is enough.** The mask over parameters leaves alone what it has made of
an address, and so do the passes of a vendor, the one for the thin driver and the one for the
call-interface driver behind it. An address is left alone by the former exactly if no password in
its parameters is readable. It is left alone by the latter exactly if no password of the thin driver
is readable in it and the second pass finds nothing either. -/
theorem masks_settle (url : Text) :
    (PasswordMask.apply (PasswordMask.apply url) = PasswordMask.apply url ∧
      (PasswordMask.apply url = url ↔ PasswordMask.Masked url)) ∧
    Vendor.oracle.maskUrl (Vendor.oracle.maskUrl url) = Vendor.oracle.maskUrl url ∧
      (Vendor.oracle.maskUrl url = url ↔
        CredentialMask.Masked thin url ∧ CredentialMask.apply oci url = url) := by
  have hparameters := PasswordMask.apply_eq_self (PasswordMask.masked_apply url)
  exact ⟨⟨hparameters, PasswordMask.apply_eq_self_iff⟩, maskUrl_maskUrl .oracle url,
    oracle_maskUrl_eq_self_iff⟩

/-- Credentials of the other driver stand in a user name of the thin driver, and some stand
alone. -/
example : Vendor.oracle.maskUrl ":thin:a:oci:b/c@d:oci:e/f@g"
    = ":thin:a:oci:b/****@d:oci:e/****@g" := by
  decide

end Vendor

end SqlDialect
