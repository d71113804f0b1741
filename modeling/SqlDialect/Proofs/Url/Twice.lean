import SqlDialect.Proofs.Url.Secrecy
import SqlDialect.Proofs.Url.Stars

/-!
# Masking twice

The passes of a vendor can be made again without changing anything, and so can the pass over
parameters. All of them together cannot: the pass over parameters comes first and has seen the
passwords of credentials that are hidden afterwards. If an equals sign, an ampersand or a semicolon
is among what is hidden, a key that it had ended is longer now and may name a password, whose value
is masked the second time only.

## When nothing changes

A second masking changes nothing exactly if the first one leaves no password of a parameter. If none
is left there is nothing to do for any of the passes. If one is left, the pass over parameters masks
it, and what this takes away from the address the passes of the vendor do not bring back
(`Starred.eq_of_disorder_le`).

None is left if the passwords that are hidden hold none of the three marks. Then a key in the masked
address comes from a key in the address, with the same value and with the same words in it, as no
word of letters goes through hidden stretches (`PasswordMask.Masked.of_starred`).

## Main results

* `Vendor.maskUrl_maskUrl` — the passes of a vendor made twice
* `Dialect.maskUrl_maskUrl_eq_iff` — masking twice
-/

namespace SqlDialect

/-! ### The vendor's passes -/

namespace CredentialMask

/-- What the first pass has masked stays masked in the second one. -/
theorem apply_thin_apply_oci (url : Text) :
    apply thin (apply oci (apply thin url)) = apply oci (apply thin url) := by
  have hmasked : Masked thin (apply thin url) :=
    masked_applyFrom slashFree_thin (.inl rfl) .elsewhere
  exact apply_eq_self (masked_applyFrom slashFree_thin (.inr hmasked) .elsewhere)

end CredentialMask

/-- **The passes of a vendor change nothing when they are made again.** -/
theorem Vendor.maskUrl_maskUrl (v : Vendor) (url : Text) :
    v.maskUrl (v.maskUrl url) = v.maskUrl url := by
  cases v with
  | generic => rfl
  | oracle =>
    simp only [Vendor.maskUrl, CredentialMask.apply_thin_apply_oci]
    exact CredentialMask.applyFrom_applyFrom .elsewhere _

/-! ### What the passes hide -/

/-- The pass over parameters hides stretches behind equals signs. -/
theorem PasswordMask.starred_apply (url : Text) : Starred '=' (fun _ => True) url (apply url) := by
  have hall := replacesAll_apply url
  generalize apply url = masked at hall ⊢
  induction hall with
  | nil => exact .nil
  | @replace _ rest _ masked hmatch _ ih =>
    obtain ⟨mark, key, value, hmark, hkey, hvalue, hended⟩ := hmatch
    have hstar : '*' ∉ rest.head? := fun hstar => by simpa using hended '*' hstar
    simp only [List.append_assoc, List.cons_append]
    exact .keep mark ((Starred.hide trivial hstar ih).append_left key)
  | keep c _ _ ih => exact .keep c ih

namespace CredentialMask

/-- A pass over credentials hides passwords that can be read off the address. -/
theorem starred_apply (kind : Text → Bool) (url : Text) :
    Starred '/' (Shows kind url) url (apply kind url) := by
  have hall := replacesAll_apply kind url
  generalize apply kind url = masked at hall ⊢
  induction hall with
  | nil => exact .nil
  | @replace _ rest _ masked hmatch _ ih =>
    obtain ⟨variant, user, password, hkind, hvariant, huser, hpassword⟩ := hmatch
    have hshown : Shows kind (':' :: (variant ++ ':' :: (user ++ '/' :: (password ++ '@' :: rest))))
        password := ⟨[], variant, user, rest, rfl, hkind, hvariant, huser, hpassword⟩
    have hbehind := (ih.mono fun hidden hhidden => hhidden.of_append
      (':' :: (variant ++ ':' :: (user ++ '/' :: (password ++ ['@'])))))
    simp only [List.append_assoc, List.cons_append, List.nil_append] at hbehind ⊢
    have hmasked := Starred.hide hshown (by simp) (hbehind.keep '@')
    exact .keep ':' ((Starred.keep ':' (hmasked.append_left user)).append_left variant)
  | keep c _ _ ih => exact .keep c (ih.mono fun hidden hhidden => hhidden.of_append [c])

end CredentialMask

/-! ### Parameters behind the passes of a vendor -/

namespace PasswordMask

/-- The value that a text starts with, if hiding stretches leaves `value` of it. -/
theorem exists_value_of_starred {Hidden : Text → Prop} {text value rest : Text}
    (hrest : Ended rest) (h : Starred '/' Hidden text (value ++ rest)) :
    ∃ value' rest', text = value' ++ rest' ∧ Ended rest' ∧ Starred '/' Hidden value' value := by
  cases rest with
  | nil => exact ⟨text, [], by simp, by simp [Ended], by simpa using h⟩
  | cons c rest =>
    have hc : c ∈ ['&', ';'] := hrest c rfl
    have hstar : c ≠ '*' := by rintro rfl; simp at hc
    have hslash : c ≠ '/' := by rintro rfl; simp at hc
    obtain ⟨value', rest', rfl, hvalue, -⟩ := h.exists_of_eq_append hstar hslash rfl
    exact ⟨value', c :: rest', rfl, by simpa [Ended] using hc, hvalue⟩

/-- **Hiding stretches without the marks that end a key or a value opens no new parameter.** -/
theorem Masked.of_starred {Hidden : Text → Prop} {text masked : Text} (h : Masked text)
    (hhidden : ∀ hidden, Hidden hidden → hidden.Disjoint ['=', '&', ';'])
    (hstarred : Starred '/' Hidden text masked) : Masked masked := by
  rintro value ⟨before, mark, key, rest, hmasked, hmark, hkey, hvalue, hrest⟩
  have hstar : mark ≠ '*' := by rintro rfl; simp at hmark
  have hslash : mark ≠ '/' := by rintro rfl; simp at hmark
  -- The mark, the key, the equals sign and the value, where they were in the text.
  obtain ⟨before', behind, rfl, -, hbehind⟩ := hstarred.exists_of_eq_append hstar hslash hmasked
  obtain ⟨key', tail, rfl, hkeys, htail⟩ :=
    hbehind.exists_of_eq_append (by decide) (by decide) rfl
  obtain ⟨value', rest', rfl, hrest', hvalues⟩ := exists_value_of_starred hrest htail
  have hkey' : SecretKey key' :=
    ⟨hkeys.disjoint hhidden hkey.unbroken, hkeys.infix_map (by decide) (by decide) hkey.named⟩
  have hclosing : ∀ hidden, Hidden hidden → hidden.Disjoint ['&', ';'] := fun hidden hown =>
    List.disjoint_of_subset_right (by simp) (hhidden hidden hown)
  have hvalue' : value'.Disjoint ['&', ';'] := hvalues.disjoint hclosing hvalue
  obtain rfl : value' = stars :=
    h value' ⟨before', mark, key', rest', rfl, hmark, hkey', hvalue', hrest'⟩
  exact hvalues.eq_of_unmarked (by decide)

end PasswordMask

namespace Vendor

open CredentialMask

/-- `password` can be read off `url` as that of credentials of the vendor, when the pass that looks
for them comes. -/
def Shows : Vendor → (url password : Text) → Prop
  | .generic, _, _ => False
  | .oracle, url, password =>
    CredentialMask.Shows thin url password ∨ CredentialMask.Shows oci (apply thin url) password

/-- The passes of a vendor open no parameter if they hide no mark that ends a key or a value. -/
theorem masked_maskUrl (v : Vendor) {url : Text} (h : PasswordMask.Masked url)
    (hshown : ∀ password, v.Shows url password → password.Disjoint ['=', '&', ';']) :
    PasswordMask.Masked (v.maskUrl url) := by
  cases v with
  | generic => exact h
  | oracle =>
    have hthin : PasswordMask.Masked (apply thin url) :=
      h.of_starred (fun password hown => hshown password (.inl hown)) (starred_apply thin url)
    exact hthin.of_starred (fun password hown => hshown password (.inr hown))
      (starred_apply oci (apply thin url))

end Vendor

/-! ### Masking twice -/

/-- The passes of a vendor leave no more to mask than there was. -/
theorem Vendor.disorder_maskUrl_le (v : Vendor) (url : Text) :
    Starred.disorder 0 (v.maskUrl url) ≤ Starred.disorder 0 url := by
  cases v with
  | generic => exact Nat.le_refl _
  | oracle =>
    have hthin := CredentialMask.starred_apply CredentialMask.thin url
    have hoci := CredentialMask.starred_apply CredentialMask.oci
      (CredentialMask.apply CredentialMask.thin url)
    exact (hoci.disorder_le (by decide) 0).trans (hthin.disorder_le (by decide) 0)

namespace Dialect

/-- Masking twice is masking once if the pass over parameters has nothing left to do. -/
theorem maskUrl_eq_self_of_masked (d : Dialect) {url : Text}
    (h : PasswordMask.Masked (d.maskUrl url)) : d.maskUrl (d.maskUrl url) = d.maskUrl url := by
  rw [maskUrl, PasswordMask.apply_eq_self h]
  exact Vendor.maskUrl_maskUrl d.vendor _

/-- And only then: what it has left to do the passes of the vendor do not undo. -/
theorem masked_of_maskUrl_eq_self (d : Dialect) {url : Text} (h : d.maskUrl url = url) :
    PasswordMask.Masked url := by
  have hback := d.vendor.disorder_maskUrl_le (PasswordMask.apply url)
  change d.vendor.maskUrl (PasswordMask.apply url) = url at h
  rw [h] at hback
  have hkept : PasswordMask.apply url = url :=
    (PasswordMask.starred_apply url).eq_of_disorder_le (by decide) hback
  rw [← hkept]
  exact PasswordMask.masked_apply url

/-- **Masking twice is masking once exactly if no password of a parameter is left.** None is left
unless the password of credentials holds a mark that ends a key or a value. Such a mark can break a
key that is none before it is hidden and one afterwards. -/
theorem maskUrl_maskUrl_eq_iff (d : Dialect) (url : Text) :
    (d.maskUrl (d.maskUrl url) = d.maskUrl url ↔ PasswordMask.Masked (d.maskUrl url)) ∧
    ((∀ password, d.vendor.Shows (PasswordMask.apply url) password →
        password.Disjoint ['=', '&', ';']) → d.maskUrl (d.maskUrl url) = d.maskUrl url) := by
  refine ⟨⟨d.masked_of_maskUrl_eq_self, d.maskUrl_eq_self_of_masked⟩, fun hshown => ?_⟩
  have hmasked : PasswordMask.Masked (PasswordMask.apply url) := PasswordMask.masked_apply url
  exact d.maskUrl_eq_self_of_masked (d.vendor.masked_maskUrl hmasked hshown)

/-- Credentials of the usual kind. -/
theorem maskUrl_maskUrl_eq_iff_scott :
    (∀ password, (oracle {}).vendor.Shows
        (PasswordMask.apply "jdbc:oracle:thin:scott/tiger@db:1521/svc") password →
          password.Disjoint ['=', '&', ';']) ∧
      (oracle {}).maskUrl ((oracle {}).maskUrl "jdbc:oracle:thin:scott/tiger@db:1521/svc")
        = (oracle {}).maskUrl "jdbc:oracle:thin:scott/tiger@db:1521/svc" := by
  have hurl : PasswordMask.apply "jdbc:oracle:thin:scott/tiger@db:1521/svc"
      = "jdbc:oracle:thin:scott/tiger@db:1521/svc" := by decide
  have hthin : CredentialMask.apply CredentialMask.thin "jdbc:oracle:thin:scott/tiger@db:1521/svc"
      = "jdbc:oracle:thin:scott/****@db:1521/svc" := by decide
  have hshown : ∀ password, (oracle {}).vendor.Shows
      (PasswordMask.apply "jdbc:oracle:thin:scott/tiger@db:1521/svc") password →
        password.Disjoint ['=', '&', ';'] := by
    rw [hurl]
    rintro password (hshown | hshown)
    · exact List.disjoint_of_subset_left hshown.subset (by simp)
    · rw [hthin] at hshown
      exact List.disjoint_of_subset_left hshown.subset (by simp)
  exact ⟨hshown, (maskUrl_maskUrl_eq_iff _ _).2 hshown⟩

/-- A password with an equals sign in it. Once it is hidden, a key goes on from the question mark in
the user to the equals sign behind the host, and a second pass masks what follows. -/
theorem maskUrl_maskUrl_ne :
    (oracle {}).maskUrl "jdbc:oracle:thin:sc?tt/ti=er@password=secret"
        = "jdbc:oracle:thin:sc?tt/****@password=secret" ∧
      (oracle {}).maskUrl ((oracle {}).maskUrl "jdbc:oracle:thin:sc?tt/ti=er@password=secret")
        ≠ (oracle {}).maskUrl "jdbc:oracle:thin:sc?tt/ti=er@password=secret" := by
  decide

end Dialect

end SqlDialect
