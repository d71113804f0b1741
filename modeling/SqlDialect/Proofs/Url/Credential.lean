import Mathlib.Data.List.Lattice
import Mathlib.Data.List.TakeWhile
import SqlDialect.Proofs.Url.Replacement
import SqlDialect.Url.Credential

/-!
# Credentials in front of a host

What one pass over an address does with the credentials of a kind. The pass decides at a colon by
looking ahead, so the first thing to know is what it sees there: whether credentials come, but not
which password they have (`credentialsAhead_append`), and the same after a pass as before it
(`credentialsAhead_applyFrom`).

Credentials that the pass does not find from outside are met in the middle of others. In the variant
or in the user of those the password is left out as well, since the slash behind the variant and the
user is the first one that comes; in their password everything is left out up to the at sign
(`applyFrom_credentials`).

## The patterns

From the front of an address a pass carries out a replacement. The pattern for the thin driver is
`(:thin:[^/]*)/[^@]*@` and that for the call-interface driver `(:oci[^:]*:[^/]*)/[^@]*@`; what is in
parentheses is kept, and a slash, four stars and the at sign are put behind it.

## Masked addresses

As with parameters, an address is `Masked` for a kind if every password of credentials in it reads
as four stars, also where credentials overlap. A pass masks the passwords of its own kind and leaves
those of another kind masked, provided that the variants of the kind have no slash in them: a pass
could take such a slash for the one behind a user, and what stood behind it for a password.

## Main definitions

* `CredentialMask.password?`, `CredentialMask.secret?` — the password that comes next
* `CredentialMask.Credentials` — the pattern for a kind
* `CredentialMask.Shows`, `CredentialMask.Masked` — the passwords that can be read off an address
* `CredentialMask.SlashFree` — kinds whose variants have no slash in them

## Main results

* `CredentialMask.apply_eq_iff` — a pass replaces all matches of its pattern
* `CredentialMask.applyFrom_secret_eq` — the password leaves no trace in what a pass makes of it
* `CredentialMask.applyFrom_applyFrom` — a second pass changes nothing
* `CredentialMask.masked_applyFrom`, `CredentialMask.apply_eq_self` — masked addresses
-/

namespace SqlDialect

namespace CredentialMask

variable {kind kind' : Text → Bool} {place : Place} {c mark : Char}
  {text rest variant user password : Text}

/-! ### What is ahead -/

theorem behind?_cons (mark c : Char) (rest : Text) :
    behind? mark (c :: rest) = if c = mark then some rest else behind? mark rest := by
  by_cases h : c = mark <;> simp [behind?, h]

theorem behind?_append (h : mark ∉ text) (rest : Text) :
    behind? mark (text ++ mark :: rest) = some rest := by
  induction text with
  | nil => simp [behind?_cons]
  | cons c text ih =>
    obtain ⟨hc, htext⟩ := List.ne_and_not_mem_of_not_mem_cons h
    rw [List.cons_append, behind?_cons, if_neg (Ne.symm hc), ih htext]

theorem behind?_eq_some_iff :
    behind? mark text = some rest ↔ ∃ front, mark ∉ front ∧ text = front ++ mark :: rest := by
  constructor
  · intro h
    induction text with
    | nil => simp [behind?] at h
    | cons c text ih =>
      rw [behind?_cons] at h
      split at h
      · next hc => exact ⟨[], by simp, by simp [hc, Option.some.inj h]⟩
      · next hc =>
        obtain ⟨front, hfront, rfl⟩ := ih h
        exact ⟨c :: front, by simp [hfront, Ne.symm hc], rfl⟩
  · rintro ⟨front, hfront, rfl⟩
    exact behind?_append hfront rest

theorem isSome_behind? (mark : Char) (text : Text) :
    (behind? mark text).isSome = decide (mark ∈ text) := by
  induction text with
  | nil => rfl
  | cons c rest ih =>
    rw [behind?_cons]
    split
    · next hc => simp [hc]
    · next hc => simp [ih, Ne.symm hc]

theorem exists_behind?_append (mark : Char) (front rest : Text) :
    ∃ middle, behind? mark (front ++ mark :: rest) = some (middle ++ rest) := by
  by_cases h : mark ∈ front
  · obtain ⟨before, middle, rfl, hbefore⟩ := List.eq_append_cons_of_mem h
    refine ⟨middle ++ [mark], ?_⟩
    rw [List.append_assoc, List.cons_append, behind?_append hbefore, List.append_assoc]
    rfl
  · exact ⟨[], by rw [behind?_append h, List.nil_append]⟩

theorem takeWhile_append_mark (h : mark ∉ text) (rest : Text) :
    (text ++ mark :: rest).takeWhile (· != mark) = text := by
  rw [Text.takeWhile_append_cons (by simp), List.takeWhile_eq_self_iff]
  intro c hc
  simpa using fun hmark : c = mark => h (hmark ▸ hc)

/-- The text between the next slash and the at sign behind it, if they come. -/
def password? (text : Text) : Option Text :=
  (behind? '/' text).bind fun rest => (behind? '@' rest).map fun _ => rest.takeWhile (· != '@')

/-- The password of the credentials that a text starts with, if it starts with a variant of the
kind and all marks come. -/
def secret? (kind : Text → Bool) (text : Text) : Option Text :=
  if kind (text.takeWhile (· != ':')) then (behind? ':' text).bind password? else none

theorem credentialsAhead_eq (kind : Text → Bool) (text : Text) :
    credentialsAhead kind text = (secret? kind text).isSome := by
  have hpassword : ∀ tail, ((behind? '/' tail).bind (behind? '@')).isSome
      = (password? tail).isSome := by
    intro tail
    cases h : behind? '/' tail <;> simp [password?, h]
  rw [credentialsAhead, secret?]
  cases kind (text.takeWhile (· != ':')) with
  | false => rfl
  | true =>
    cases behind? ':' text with
    | none => rfl
    | some tail => simpa using hpassword tail

theorem password?_append (huser : '/' ∉ user) (hpassword : '@' ∉ password) (rest : Text) :
    password? (user ++ '/' :: (password ++ '@' :: rest)) = some password := by
  rw [password?, behind?_append huser, Option.bind_some, behind?_append hpassword,
    Option.map_some, takeWhile_append_mark hpassword]

theorem password?_eq_some_iff : password? text = some password ↔
    ∃ user rest, '/' ∉ user ∧ '@' ∉ password ∧ text = user ++ '/' :: (password ++ '@' :: rest) := by
  constructor
  · intro h
    obtain ⟨tail, htail, h⟩ := Option.bind_eq_some_iff.mp h
    obtain ⟨rest, hrest, rfl⟩ := Option.map_eq_some_iff.mp h
    obtain ⟨user, huser, rfl⟩ := behind?_eq_some_iff.mp htail
    obtain ⟨password, hpassword, rfl⟩ := behind?_eq_some_iff.mp hrest
    rw [takeWhile_append_mark hpassword]
    exact ⟨user, rest, huser, hpassword, rfl⟩
  · rintro ⟨user, rest, huser, hpassword, rfl⟩
    exact password?_append huser hpassword rest

theorem secret?_eq_some_iff : secret? kind text = some password ↔
    ∃ variant tail, kind variant = true ∧ ':' ∉ variant ∧ text = variant ++ ':' :: tail ∧
      password? tail = some password := by
  constructor
  · intro h
    rw [secret?] at h
    split at h
    · next hkind =>
      obtain ⟨tail, htail, hpassword⟩ := Option.bind_eq_some_iff.mp h
      obtain ⟨variant, hvariant, rfl⟩ := behind?_eq_some_iff.mp htail
      rw [takeWhile_append_mark hvariant] at hkind
      exact ⟨variant, tail, hkind, hvariant, rfl, hpassword⟩
    · simp at h
  · rintro ⟨variant, tail, hkind, hvariant, rfl, hpassword⟩
    rw [secret?, takeWhile_append_mark hvariant, if_pos hkind, behind?_append hvariant,
      Option.bind_some, hpassword]

/-- What a text starts with when credentials are ahead. -/
theorem credentialsAhead_iff : credentialsAhead kind text = true ↔
    ∃ variant user password rest, kind variant = true ∧ ':' ∉ variant ∧ '/' ∉ user ∧
      '@' ∉ password ∧ text = variant ++ ':' :: (user ++ '/' :: (password ++ '@' :: rest)) := by
  rw [credentialsAhead_eq, Option.isSome_iff_exists]
  constructor
  · rintro ⟨password, hsecret⟩
    obtain ⟨variant, tail, hkind, hvariant, rfl, htail⟩ := secret?_eq_some_iff.mp hsecret
    obtain ⟨user, rest, huser, hpassword, rfl⟩ := password?_eq_some_iff.mp htail
    exact ⟨variant, user, password, rest, hkind, hvariant, huser, hpassword, rfl⟩
  · rintro ⟨variant, user, password, rest, hkind, hvariant, huser, hpassword, rfl⟩
    exact ⟨password, secret?_eq_some_iff.mpr
      ⟨variant, _, hkind, hvariant, rfl, password?_append huser hpassword rest⟩⟩

theorem password?_cons (c : Char) (rest : Text) :
    password? (c :: rest)
      = if c = '/' then (behind? '@' rest).map fun _ => rest.takeWhile (· != '@')
        else password? rest := by
  rw [password?, behind?_cons]
  split <;> rfl

theorem isSome_password?_cons (c : Char) (rest : Text) :
    (password? (c :: rest)).isSome
      = if c = '/' then decide ('@' ∈ rest) else (password? rest).isSome := by
  rw [password?_cons]
  split
  · rw [Option.isSome_map, isSome_behind?]
  · rfl

theorem isSome_password?_append (front password rest : Text) :
    (password? (front ++ '/' :: (password ++ '@' :: rest))).isSome = true := by
  induction front with
  | nil => simp [isSome_password?_cons]
  | cons c front ih =>
    rw [List.cons_append, isSome_password?_cons]
    split
    · simp
    · exact ih

/-- The look ahead from in front of a colon sees that there is a password behind it, but not which
one. -/
theorem credentialsAhead_append (kind : Text → Bool) (front middle password rest : Text) :
    credentialsAhead kind (front ++ ':' :: (middle ++ '/' :: (password ++ '@' :: rest)))
      = kind (front.takeWhile (· != ':')) := by
  obtain ⟨tail, htail⟩ :=
    exists_behind?_append ':' front (middle ++ '/' :: (password ++ '@' :: rest))
  have hpassword := isSome_password?_append (tail ++ middle) password rest
  rw [credentialsAhead_eq, secret?, Text.takeWhile_append_cons (by simp), htail, Option.bind_some,
    ← List.append_assoc]
  cases kind (front.takeWhile (· != ':')) with
  | false => rfl
  | true => exact hpassword

theorem credentialsAhead_credentials (hvariant : ':' ∉ variant) (user password rest : Text) :
    credentialsAhead kind (variant ++ ':' :: (user ++ '/' :: (password ++ '@' :: rest)))
      = kind variant := by
  rw [credentialsAhead_append, List.takeWhile_eq_self_iff.mpr]
  intro c hc
  simpa using fun h : c = ':' => hvariant (h ▸ hc)

/-! ### The pass from one mark to the next -/

theorem applyFrom_variant_append (h : ':' ∉ variant) (rest : Text) :
    applyFrom kind .variant (variant ++ ':' :: rest)
      = variant ++ ':' :: applyFrom kind .user rest := by
  induction variant with
  | nil => rfl
  | cons c variant ih =>
    obtain ⟨hc, hvariant⟩ := List.ne_and_not_mem_of_not_mem_cons h
    rw [List.cons_append, applyFrom, if_neg (Ne.symm hc), ih hvariant, List.cons_append]

theorem applyFrom_user_append (kind : Text → Bool) (h : '/' ∉ user) (rest : Text) :
    applyFrom kind .user (user ++ '/' :: rest)
      = user ++ '/' :: (stars ++ applyFrom kind .password rest) := by
  induction user with
  | nil => rfl
  | cons c user ih =>
    obtain ⟨hc, huser⟩ := List.ne_and_not_mem_of_not_mem_cons h
    rw [List.cons_append, applyFrom, if_neg (Ne.symm hc), ih huser, List.cons_append]

theorem applyFrom_password_append (kind : Text → Bool) (h : '@' ∉ password) (rest : Text) :
    applyFrom kind .password (password ++ '@' :: rest) = '@' :: applyFrom kind .elsewhere rest := by
  induction password with
  | nil => rfl
  | cons c password ih =>
    obtain ⟨hc, hpassword⟩ := List.ne_and_not_mem_of_not_mem_cons h
    rw [List.cons_append, applyFrom, if_neg (Ne.symm hc), ih hpassword]

/-- Without a colon nothing starts. -/
theorem applyFrom_elsewhere_append (kind : Text → Bool) (h : ':' ∉ text) (rest : Text) :
    applyFrom kind .elsewhere (text ++ rest) = text ++ applyFrom kind .elsewhere rest := by
  induction text with
  | nil => rfl
  | cons c text ih =>
    obtain ⟨hc, htext⟩ := List.ne_and_not_mem_of_not_mem_cons h
    have hplace : (c == ':') = false := by simpa using Ne.symm hc
    simp [applyFrom, hplace, ih htext]

/-- The pass over credentials from their variant on. -/
theorem applyFrom_variant_credentials (hvariant : ':' ∉ variant) (huser : '/' ∉ user)
    (hpassword : '@' ∉ password) (rest : Text) :
    applyFrom kind .variant (variant ++ ':' :: (user ++ '/' :: (password ++ '@' :: rest)))
      = variant ++ ':' :: (user ++ '/' :: (stars ++ '@' :: applyFrom kind .elsewhere rest)) := by
  rw [applyFrom_variant_append hvariant, applyFrom_user_append kind huser,
    applyFrom_password_append kind hpassword]

/-- Outside credentials the pass masks those that come next. -/
theorem apply_credentials (hkind : kind variant = true) (hvariant : ':' ∉ variant)
    (huser : '/' ∉ user) (hpassword : '@' ∉ password) (rest : Text) :
    apply kind (':' :: (variant ++ ':' :: (user ++ '/' :: (password ++ '@' :: rest))))
      = ':' :: (variant ++ ':' :: (user ++ '/' :: (stars ++ '@' :: apply kind rest))) := by
  have hahead : credentialsAhead kind
      (variant ++ ':' :: (user ++ '/' :: (password ++ '@' :: rest))) = true :=
    credentialsAhead_iff.mpr ⟨variant, user, password, rest, hkind, hvariant, huser, hpassword, rfl⟩
  rw [apply, applyFrom, hahead]
  exact congrArg (':' :: ·) (applyFrom_variant_credentials hvariant huser hpassword rest)

/-- A character with which no credentials start is kept. -/
theorem apply_cons_of_plain (h : ¬ (c = ':' ∧ credentialsAhead kind rest = true)) :
    apply kind (c :: rest) = c :: apply kind rest := by
  have hplace : (c == ':' && credentialsAhead kind rest) = false := by simpa using h
  rw [apply, applyFrom, hplace]
  rfl

/-! ### The pattern -/

/-- Credentials behind a variant of the kind, and the same with four stars for their password:
`(:variant:[^/]*)/[^@]*@`, where a variant has no colon in it. -/
inductive Credentials (kind : Text → Bool) : Text → Text → Text → Prop where
  /-- Variant, user and password. -/
  | intro (variant user password : Text) {rest : Text} : kind variant = true → ':' ∉ variant →
      '/' ∉ user → '@' ∉ password →
      Credentials kind (':' :: (variant ++ ':' :: (user ++ '/' :: (password ++ ['@'])))) rest
        (':' :: (variant ++ ':' :: (user ++ '/' :: (stars ++ ['@']))))

theorem startsMatch_iff :
    StartsMatch (Credentials kind) (c :: rest) ↔ c = ':' ∧ credentialsAhead kind rest = true := by
  constructor
  · rintro ⟨_, behind, _, htext, ⟨variant, user, password, hkind, hvariant, huser, hpassword⟩⟩
    obtain ⟨rfl, rfl⟩ := List.cons.inj htext
    exact ⟨rfl, credentialsAhead_iff.mpr
      ⟨variant, user, password, behind, hkind, hvariant, huser, hpassword, by simp⟩⟩
  · rintro ⟨rfl, hahead⟩
    obtain ⟨variant, user, password, behind, hkind, hvariant, huser, hpassword, rfl⟩ :=
      credentialsAhead_iff.mp hahead
    exact ⟨_, behind, _, by simp, .intro variant user password hkind hvariant huser hpassword⟩

/-- **A pass replaces all matches of its pattern**, from left to right. -/
theorem apply_eq_iff {url masked : Text} :
    apply kind url = masked ↔ ReplacesAll (Credentials kind) url masked := by
  refine ReplacesAll.eq_iff rfl ?_ fun c rest h => apply_cons_of_plain (startsMatch_iff.not.mp h)
  rintro _ rest _ ⟨variant, user, password, hkind, hvariant, huser, hpassword⟩
  exact ⟨List.cons_ne_nil _ _, by simpa using apply_credentials hkind hvariant huser hpassword rest⟩

theorem replacesAll_apply (kind : Text → Bool) (url : Text) :
    ReplacesAll (Credentials kind) url (apply kind url) := apply_eq_iff.mp rfl

/-! ### No trace -/

/-- **The pass over credentials.** Inside a password everything up to its at sign belongs to it. In
every other place the credentials are kept but for their password, for a colon in the variant or in
the user does not end the user. -/
theorem applyFrom_credentials (hkind : kind variant = true)
    (hvariant : variant.Disjoint [':', '/', '@']) (huser : user.Disjoint ['/', '@'])
    (hpassword : '@' ∉ password) (rest : Text) (place : Place) :
    applyFrom kind place (':' :: (variant ++ ':' :: (user ++ '/' :: (password ++ '@' :: rest))))
      = if place = .password then '@' :: applyFrom kind .elsewhere rest
        else ':' :: (variant ++ ':' :: (user ++ '/' :: (stars ++ '@' ::
          applyFrom kind .elsewhere rest))) := by
  have hcolon : ':' ∉ variant := fun h => hvariant h (by simp)
  have hslash : '/' ∉ user := fun h => huser h (by simp)
  have hinside : applyFrom kind .user (variant ++ ':' :: (user ++ '/' :: (password ++ '@' :: rest)))
      = variant ++ ':' :: (user ++ '/' :: (stars ++ '@' :: applyFrom kind .elsewhere rest)) := by
    have hfront : '/' ∉ variant ++ ':' :: user := by
      simp only [List.mem_append, List.mem_cons, not_or]
      exact ⟨fun h => hvariant h (by simp), by decide, hslash⟩
    have := applyFrom_user_append kind hfront (password ++ '@' :: rest)
    rw [applyFrom_password_append kind hpassword] at this
    simpa only [List.append_assoc, List.cons_append] using this
  cases place with
  | elsewhere => exact apply_credentials hkind hcolon hslash hpassword rest
  | variant => simp [applyFrom, hinside]
  | user => simp [applyFrom, hinside]
  | password =>
    have hwhole : '@' ∉ ':' :: (variant ++ ':' :: (user ++ '/' :: password)) := by
      simp only [List.mem_append, List.mem_cons, not_or]
      exact ⟨by decide, fun h => hvariant h (by simp), by decide, fun h => huser h (by simp),
        by decide, hpassword⟩
    have := applyFrom_password_append kind hwhole rest
    simpa only [List.append_assoc, List.cons_append, if_true] using this

/-- The password of credentials leaves no trace in what a pass makes of an address. -/
theorem applyFrom_secret_eq (hkind : kind variant = true)
    (hvariant : variant.Disjoint [':', '/', '@']) (huser : user.Disjoint ['/', '@'])
    {password' : Text} (hpassword : '@' ∉ password) (hpassword' : '@' ∉ password')
    (before rest : Text) (place : Place) :
    applyFrom kind place
        (before ++ ':' :: (variant ++ ':' :: (user ++ '/' :: (password ++ '@' :: rest))))
      = applyFrom kind place
        (before ++ ':' :: (variant ++ ':' :: (user ++ '/' :: (password' ++ '@' :: rest)))) := by
  induction before generalizing place with
  | nil =>
    rw [List.nil_append, List.nil_append, applyFrom_credentials hkind hvariant huser hpassword,
      applyFrom_credentials hkind hvariant huser hpassword']
  | cons c before ih =>
    have hahead : ∀ password, credentialsAhead kind
        (before ++ ':' :: (variant ++ ':' :: (user ++ '/' :: (password ++ '@' :: rest))))
          = kind (before.takeWhile (· != ':')) := by
      intro password
      have := credentialsAhead_append kind before (variant ++ ':' :: user) password rest
      simpa only [List.append_assoc, List.cons_append] using this
    cases place <;> simp only [List.cons_append, applyFrom, hahead, ih]

/-! ### What is ahead after a pass -/

theorem mem_at_applyFrom (place : Place) (text : Text) :
    '@' ∈ applyFrom kind place text ↔ '@' ∈ text := by
  induction text generalizing place with
  | nil => cases place <;> simp [applyFrom]
  | cons c rest ih =>
    cases place with
    | elsewhere => simp [applyFrom, ih]
    | variant => simp [applyFrom, ih]
    | user =>
      rw [applyFrom]
      split
      · next hc => simp [ih, hc, stars]
      · simp [ih]
    | password =>
      rw [applyFrom]
      split
      · next hc => simp [hc]
      · next hc => simp [ih, Ne.symm hc]

/-- Whether a password comes is the same after a pass. -/
theorem isSome_password?_applyFrom (kind : Text → Bool) (hplace : place ≠ .password) (text : Text) :
    (password? (applyFrom kind place text)).isSome = (password? text).isSome := by
  induction text generalizing place with
  | nil => cases place <;> rfl
  | cons c rest ih =>
    have hkept : ∀ next ≠ Place.password, (password? (c :: applyFrom kind next rest)).isSome
        = (password? (c :: rest)).isSome := by
      intro next hnext
      simp only [isSome_password?_cons, mem_at_applyFrom, ih hnext]
    cases place with
    | password => exact absurd rfl hplace
    | elsewhere =>
      rw [applyFrom]
      refine hkept _ ?_
      split <;> simp
    | variant =>
      rw [applyFrom]
      refine hkept _ ?_
      split <;> simp
    | user =>
      rw [applyFrom]
      split
      · next hc =>
        subst hc
        simp [isSome_password?_cons, mem_at_applyFrom, stars]
      · exact hkept .user (by simp)

/-- Whether credentials come is the same after a pass that is not yet in the user. -/
theorem credentialsAhead_applyFrom (hplace : place = .elsewhere ∨ place = .variant) (text : Text) :
    credentialsAhead kind (applyFrom kind' place text) = credentialsAhead kind text := by
  suffices h : (applyFrom kind' place text).takeWhile (· != ':') = text.takeWhile (· != ':') ∧
      ((behind? ':' (applyFrom kind' place text)).bind password?).isSome
        = ((behind? ':' text).bind password?).isSome by
    rw [credentialsAhead_eq, credentialsAhead_eq, secret?, secret?, h.1]
    split
    · exact h.2
    · rfl
  induction text generalizing place with
  | nil => rcases hplace with rfl | rfl <;> exact ⟨rfl, rfl⟩
  | cons c rest ih =>
    have hkept : ∀ next, next ≠ .password → (c ≠ ':' → next = .elsewhere ∨ next = .variant) →
        (c :: applyFrom kind' next rest).takeWhile (· != ':')
            = (c :: rest).takeWhile (· != ':') ∧
          ((behind? ':' (c :: applyFrom kind' next rest)).bind password?).isSome
            = ((behind? ':' (c :: rest)).bind password?).isSome := by
      intro next hnext hbefore
      by_cases hc : c = ':'
      · simpa [behind?_cons, hc] using isSome_password?_applyFrom kind' hnext rest
      · simpa [behind?_cons, hc] using ih (hbefore hc)
    rcases hplace with rfl | rfl
    · rw [applyFrom]
      split <;> exact hkept _ (by simp) (by simp)
    · rw [applyFrom]
      split
      · next hc => exact hkept _ (by simp) (fun h => absurd hc h)
      · exact hkept _ (by simp) (by simp)

/-- **A second pass for the same kind changes nothing.** The two passes are in the same place at
every character that the first one keeps. -/
theorem applyFrom_applyFrom (place : Place) (text : Text) :
    applyFrom kind place (applyFrom kind place text) = applyFrom kind place text := by
  induction text generalizing place with
  | nil => cases place <;> rfl
  | cons c rest ih =>
    cases place with
    | elsewhere =>
      have hahead : credentialsAhead kind (applyFrom kind
          (if c == ':' && credentialsAhead kind rest then .variant else .elsewhere) rest)
            = credentialsAhead kind rest := by
        refine credentialsAhead_applyFrom ?_ rest
        split <;> simp
      simp only [applyFrom, hahead, ih]
    | variant => simp only [applyFrom, ih]
    | user =>
      by_cases hc : c = '/'
      · simp [applyFrom, hc, stars, ih]
      · simp only [applyFrom, if_neg hc, ih]
    | password =>
      by_cases hc : c = '@'
      · simp [applyFrom, hc, ih]
      · simp only [applyFrom, if_neg hc, ih]

/-! ### Masked addresses -/

/-- `password` can be read off `url` as that of credentials behind a variant of the kind. -/
def Shows (kind : Text → Bool) (url password : Text) : Prop :=
  ∃ before variant user rest,
    url = before ++ ':' :: (variant ++ ':' :: (user ++ '/' :: (password ++ '@' :: rest))) ∧
    kind variant = true ∧ ':' ∉ variant ∧ '/' ∉ user ∧ '@' ∉ password

theorem Shows.of_append (front : Text) (h : Shows kind rest password) :
    Shows kind (front ++ rest) password := by
  obtain ⟨before, variant, user, tail, rfl, hshown⟩ := h
  exact ⟨front ++ before, variant, user, tail, by rw [List.append_assoc], hshown⟩

theorem Shows.subset {url : Text} (h : Shows kind url password) : password ⊆ url := by
  obtain ⟨before, variant, user, rest, rfl, -⟩ := h
  intro c hc
  simp [hc]

/-- Every password that can be read off `url` is four stars. -/
def Masked (kind : Text → Bool) (url : Text) : Prop :=
  ∀ password, Shows kind url password → password = stars

theorem masked_nil : Masked kind [] := by
  rintro password ⟨before, variant, user, rest, hurl, -⟩
  simp at hurl

theorem Masked.of_append (front : Text) (h : Masked kind (front ++ rest)) : Masked kind rest :=
  fun password hshown => h password (hshown.of_append front)

/-- The passwords of an address are that of the credentials its first character starts, if it starts
some, and those of the rest. -/
theorem masked_cons_iff : Masked kind (c :: rest) ↔
    (c = ':' → ∀ password ∈ secret? kind rest, password = stars) ∧ Masked kind rest := by
  constructor
  · intro h
    refine ⟨?_, h.of_append [c]⟩
    rintro rfl password hsecret
    obtain ⟨variant, tail, hkind, hvariant, rfl, hpassword⟩ := secret?_eq_some_iff.mp hsecret
    obtain ⟨user, rest, huser, hat, rfl⟩ := password?_eq_some_iff.mp hpassword
    exact h password ⟨[], variant, user, rest, rfl, hkind, hvariant, huser, hat⟩
  · rintro ⟨hfront, h⟩ password ⟨before, variant, user, tail, hurl, hkind, hvariant, huser, hat⟩
    cases before with
    | nil =>
      obtain ⟨rfl, rfl⟩ := List.cons.inj hurl
      refine hfront rfl password (secret?_eq_some_iff.mpr ⟨variant, _, hkind, hvariant, rfl, ?_⟩)
      exact password?_eq_some_iff.mpr ⟨user, tail, huser, hat, rfl⟩
    | cons c' before =>
      obtain ⟨rfl, rfl⟩ := List.cons.inj hurl
      exact h password ⟨before, variant, user, tail, rfl, hkind, hvariant, huser, hat⟩

/-- What a pass makes of a text starts like the text, up to the first slash. -/
theorem exists_of_applyFrom_eq_append {front tail : Text} (hfront : '/' ∉ front)
    (hplace : place ≠ .password) (h : applyFrom kind place text = front ++ tail) :
    ∃ rest next, text = front ++ rest ∧ tail = applyFrom kind next rest ∧ next ≠ .password ∧
      (place = .user ∨ place = .variant ∧ ':' ∈ front → next = .user) := by
  induction front generalizing text place with
  | nil =>
    refine ⟨text, place, rfl, h.symm, hplace, ?_⟩
    rintro (rfl | ⟨-, hcolon⟩)
    · rfl
    · simp at hcolon
  | cons d front ih =>
    obtain ⟨hd, hbehind⟩ := List.ne_and_not_mem_of_not_mem_cons hfront
    cases text with
    | nil => cases place <;> simp [applyFrom] at h
    | cons c text =>
      cases place with
      | password => exact absurd rfl hplace
      | elsewhere =>
        rw [applyFrom] at h
        obtain ⟨rfl, htail⟩ := List.cons.inj h
        obtain ⟨rest, next, rfl, rfl, hnext, -⟩ := ih hbehind (by split <;> simp) htail
        exact ⟨rest, next, rfl, rfl, hnext, by simp⟩
      | variant =>
        rw [applyFrom] at h
        obtain ⟨rfl, htail⟩ := List.cons.inj h
        obtain ⟨rest, next, rfl, rfl, hnext, huser⟩ := ih hbehind (by split <;> simp) htail
        refine ⟨rest, next, rfl, rfl, hnext, fun hplace => ?_⟩
        by_cases hc : c = ':'
        · exact huser (.inl (if_pos hc))
        · exact huser (.inr ⟨if_neg hc, by simpa [Ne.symm hc] using hplace⟩)
      | user =>
        rw [applyFrom] at h
        split at h
        · next hc => exact absurd (hc ▸ (List.cons.inj h).1) hd
        · obtain ⟨rfl, htail⟩ := List.cons.inj h
          obtain ⟨rest, next, rfl, rfl, hnext, huser⟩ := ih hbehind (by simp) htail
          exact ⟨rest, next, rfl, rfl, hnext, fun _ => huser (.inl rfl)⟩

/-- A masked password stays what it is, whatever place a pass reaches it in. -/
theorem exists_applyFrom_stars (kind : Text → Bool) (hplace : place ≠ .password)
    (huser : '/' ∉ user) (rest : Text) :
    ∃ tail, applyFrom kind place (user ++ '/' :: (stars ++ '@' :: rest))
      = user ++ '/' :: (stars ++ '@' :: tail) := by
  induction user generalizing place with
  | nil => cases place <;> simp [applyFrom, stars] at hplace ⊢
  | cons c user ih =>
    obtain ⟨hc, huser⟩ := List.ne_and_not_mem_of_not_mem_cons huser
    have hkept : ∀ next ≠ Place.password, ∃ tail, c :: applyFrom kind next
        (user ++ '/' :: (stars ++ '@' :: rest)) = c :: user ++ '/' :: (stars ++ '@' :: tail) := by
      intro next hnext
      obtain ⟨tail, htail⟩ := ih hnext huser
      exact ⟨tail, by rw [htail, List.cons_append]⟩
    rw [List.cons_append]
    cases place with
    | password => exact absurd rfl hplace
    | elsewhere => exact hkept _ (by split <;> simp)
    | variant => exact hkept _ (by split <;> simp)
    | user =>
      rw [applyFrom, if_neg (Ne.symm hc)]
      exact hkept .user (by simp)

/-- A pass leaves a masked password, or masks it when it is in the user. -/
theorem eq_stars_of_password?_applyFrom (hplace : place ≠ .password)
    (h : place ≠ .user → password? text = some stars)
    (hpassword : password? (applyFrom kind place text) = some password) : password = stars := by
  have hbefore : (password? text).isSome = true := by
    rw [← isSome_password?_applyFrom kind hplace, hpassword]
    rfl
  obtain ⟨password', hpassword'⟩ := Option.isSome_iff_exists.mp hbefore
  obtain ⟨user, rest, huser, hat, rfl⟩ := password?_eq_some_iff.mp hpassword'
  by_cases hinside : place = .user
  · subst hinside
    rw [applyFrom_user_append kind huser, applyFrom_password_append kind hat,
      password?_append huser (by simp [stars])] at hpassword
    exact (Option.some.inj hpassword).symm
  · rw [h hinside] at hpassword'
    obtain rfl := Option.some.inj hpassword'
    obtain ⟨tail, htail⟩ := exists_applyFrom_stars kind hplace huser rest
    rw [htail, password?_append huser hat] at hpassword
    exact (Option.some.inj hpassword).symm

/-- A kind of credentials whose variants have no slash in them. -/
def SlashFree (kind : Text → Bool) : Prop := ∀ variant, kind variant = true → '/' ∉ variant

/-- What can be read off behind a pass is masked, if it was masked before or if the pass had started
on it. -/
theorem eq_stars_of_secret?_applyFrom (hkind : SlashFree kind)
    (hplace : place ≠ .password)
    (h : place = .elsewhere → ∀ password ∈ secret? kind text, password = stars) :
    ∀ password ∈ secret? kind (applyFrom kind' place text), password = stars := by
  intro password hsecret
  obtain ⟨variant, tail, hvariant, hcolon, htext, hpassword⟩ := secret?_eq_some_iff.mp hsecret
  have hfront : '/' ∉ variant ++ [':'] := by simp [hkind variant hvariant]
  rw [List.append_cons] at htext
  obtain ⟨rest, next, rfl, rfl, hnext, huser⟩ := exists_of_applyFrom_eq_append hfront hplace htext
  refine eq_stars_of_password?_applyFrom hnext (fun hother => ?_) hpassword
  have hstart : place = .elsewhere := by
    cases place with
    | elsewhere => rfl
    | variant => exact absurd (huser (.inr ⟨rfl, by simp⟩)) hother
    | user => exact absurd (huser (.inl rfl)) hother
    | password => exact absurd rfl hplace
  have hbefore : (password? rest).isSome = true := by
    rw [← isSome_password?_applyFrom kind' hnext, hpassword]
    rfl
  obtain ⟨password', hpassword'⟩ := Option.isSome_iff_exists.mp hbefore
  have hsecret' : secret? kind (variant ++ [':'] ++ rest) = some password' :=
    secret?_eq_some_iff.mpr ⟨variant, rest, hvariant, hcolon, by simp, hpassword'⟩
  rw [hpassword', h hstart password' hsecret']

/-- **A pass masks the passwords of its kind and keeps those of another kind masked.** -/
theorem masked_applyFrom (hkind : SlashFree kind)
    (h : kind' = kind ∨ Masked kind text) (place : Place) :
    Masked kind (applyFrom kind' place text) := by
  induction text generalizing place with
  | nil => cases place <;> exact masked_nil
  | cons c rest ih =>
    have hrest : kind' = kind ∨ Masked kind rest := h.imp_right fun h => (masked_cons_iff.mp h).2
    have hkept : ∀ next ≠ Place.password,
        (c = ':' → next = .elsewhere → ∀ password ∈ secret? kind rest, password = stars) →
        Masked kind (c :: applyFrom kind' next rest) := by
      intro next hnext hfront
      exact masked_cons_iff.mpr
        ⟨fun hc => eq_stars_of_secret?_applyFrom hkind hnext (hfront hc), ih hrest next⟩
    cases place with
    | elsewhere =>
      refine hkept _ (by split <;> simp) fun hc hnext => ?_
      rcases h with rfl | h
      · have hnone : secret? kind' rest = none := by
          simpa [hc, credentialsAhead_eq] using hnext
        simp [hnone]
      · exact (masked_cons_iff.mp h).1 hc
    | variant => exact hkept _ (by split <;> simp) fun hc hnext => by simp [hc] at hnext
    | user =>
      rw [applyFrom]
      split
      · next hc => simpa [masked_cons_iff, stars, hc] using ih hrest .password
      · exact hkept .user (by simp) (by simp)
    | password =>
      rw [applyFrom]
      split
      · next hc => simpa [masked_cons_iff, hc] using ih hrest .elsewhere
      · exact ih hrest .password

/-- A masked address is left alone. -/
theorem apply_eq_self {url : Text} (h : Masked kind url) : apply kind url = url := by
  have hall := replacesAll_apply kind url
  generalize apply kind url = masked at hall ⊢
  induction hall with
  | nil => rfl
  | @replace _ rest _ masked hmatch _ ih =>
    obtain ⟨variant, user, password, hkind, hvariant, huser, hpassword⟩ := hmatch
    obtain rfl : password = stars :=
      h password ⟨[], variant, user, rest, by simp, hkind, hvariant, huser, hpassword⟩
    rw [ih (h.of_append _)]
  | keep c _ _ ih => rw [ih (h.of_append [c])]

end CredentialMask

end SqlDialect
