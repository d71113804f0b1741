import SqlDialect.Proofs.Url.Credential
import SqlDialect.Proofs.Url.Password
import SqlDialect.Url

/-!
# Credentials leave no trace

Two addresses that differ in the password of credentials only are masked alike, whatever other
credentials stand in front of them and behind them.

## Two passes

A vendor looks for two kinds of credentials, those of the thin driver first. That pass leaves the
password of its own credentials out. Those of the call-interface driver it meets in some place.
Where that is in other credentials it leaves their password out as well, and elsewhere it keeps
them, so that the second pass finds them. `HidesOrKeeps` says that for all passwords it is the same
one of the two. A colon in the password would spoil this: credentials of the thin driver could start
there, and the first pass would keep one part of the password and leave another one out.

## Main definitions

* `CredentialMask.HidesOrKeeps` — what a pass makes of credentials of another kind

## Main results

* `CredentialMask.hidesOrKeeps_applyFrom` — a pass hides the password or keeps the credentials
* `Dialect.maskUrl_secret_eq` — the password leaves no trace
-/

namespace SqlDialect

namespace CredentialMask

variable {kind kind' : Text → Bool} {lead middle : Text} {result : Text → Text}

/-- What a pass makes of credentials of another kind, as a text that depends on their password:
either the password leaves no trace, or the credentials are kept. -/
def HidesOrKeeps (lead : Text) (result : Text → Text) : Prop :=
  (∃ masked, ∀ password : Text, password.Disjoint [':', '@'] → result password = masked) ∨
    ∃ before rest, ∀ password : Text, password.Disjoint [':', '@'] →
      result password = before ++ (lead ++ '/' :: (password ++ '@' :: rest))

theorem HidesOrKeeps.append (h : HidesOrKeeps lead result) (front : Text) :
    HidesOrKeeps lead fun password => front ++ result password := by
  rcases h with ⟨masked, h⟩ | ⟨before, rest, h⟩
  · exact .inl ⟨front ++ masked, fun password hpassword =>
      congrArg (front ++ ·) (h password hpassword)⟩
  · refine .inr ⟨front ++ before, rest, fun password hpassword => ?_⟩
    simp only [h password hpassword, List.append_assoc]

/-- Without a colon before the next slash there is no variant. -/
theorem credentialsAhead_of_slash (hkind : SlashFree kind)
    (hlead : ':' ∉ lead) (rest : Text) : credentialsAhead kind (lead ++ '/' :: rest) = false := by
  have hinside : ∀ c ∈ lead, (c != ':') = true := fun c hc => by
    simpa using fun hcolon : c = ':' => hlead (hcolon ▸ hc)
  have hslash : '/' ∈ (lead ++ '/' :: rest).takeWhile (· != ':') := by
    rw [List.takeWhile_append_of_pos hinside]
    simp
  have hother : kind ((lead ++ '/' :: rest).takeWhile (· != ':')) = false := by
    rw [Bool.eq_false_iff]
    exact fun h => hkind _ h hslash
  rw [credentialsAhead, hother, Bool.false_and]

/-- Behind a colon credentials come whatever the password is, or never. -/
theorem credentialsAhead_lead (hkind : SlashFree kind)
    (lead rest : Text) :
    (∃ variant user, kind variant = true ∧ ':' ∉ variant ∧ lead = variant ++ ':' :: user) ∨
      ∀ password : Text,
        credentialsAhead kind (lead ++ '/' :: (password ++ '@' :: rest)) = false := by
  by_cases hcolon : ':' ∈ lead
  · obtain ⟨variant, user, rfl, hvariant⟩ := List.eq_append_cons_of_mem hcolon
    by_cases hown : kind variant = true
    · exact .inl ⟨variant, user, hown, hvariant, rfl⟩
    · refine .inr fun password => ?_
      rw [List.append_assoc, List.cons_append, credentialsAhead_credentials hvariant]
      exact Bool.eq_false_iff.mpr hown
  · exact .inr fun password => credentialsAhead_of_slash hkind hcolon _

/-- From outside credentials a pass either takes a password for that of credentials of its own kind
that start in front of it, or passes it. -/
theorem apply_lead (hkind : SlashFree kind)
    (hlead : lead.Disjoint ['/', '@']) (rest : Text) :
    (∃ masked, ∀ password : Text, password.Disjoint [':', '@'] →
      apply kind (lead ++ '/' :: (password ++ '@' :: rest)) = masked) ∨
    ∀ password : Text, password.Disjoint [':', '@'] →
      apply kind (lead ++ '/' :: (password ++ '@' :: rest))
        = lead ++ '/' :: (password ++ '@' :: apply kind rest) := by
  induction lead with
  | nil =>
    refine .inr fun password hpassword => ?_
    have hcolon : ':' ∉ '/' :: (password ++ ['@']) := by
      simpa using fun h => hpassword h (by simp)
    simpa [apply] using applyFrom_elsewhere_append kind hcolon rest
  | cons c lead ih =>
    rw [List.disjoint_cons_left] at hlead
    by_cases hstart : c = ':' ∧ ∃ variant user, kind variant = true ∧ ':' ∉ variant ∧
        lead = variant ++ ':' :: user
    · obtain ⟨rfl, variant, user, hown, hvariant, rfl⟩ := hstart
      have huser : '/' ∉ user := by
        intro h
        have hmem : '/' ∈ variant ++ ':' :: user := by simp [h]
        exact hlead.2 hmem (by simp)
      refine .inl ⟨':' :: (variant ++ ':' :: (user ++ '/' :: (stars ++ '@' :: apply kind rest))),
        fun password hpassword => ?_⟩
      rw [List.cons_append, List.append_assoc, List.cons_append]
      exact apply_credentials hown hvariant huser (fun h => hpassword h (by simp)) rest
    · have hplain : ∀ password : Text,
          ¬ (c = ':' ∧ credentialsAhead kind (lead ++ '/' :: (password ++ '@' :: rest)) = true) := by
        rintro password ⟨hc, hahead⟩
        rcases credentialsAhead_lead hkind lead rest with hown | hother
        · exact hstart ⟨hc, hown⟩
        · simp [hother password] at hahead
      rcases ih hlead.2 with ⟨masked, h⟩ | h
      · refine .inl ⟨c :: masked, fun password hpassword => ?_⟩
        rw [List.cons_append, apply_cons_of_plain (hplain password), h password hpassword]
      · refine .inr fun password hpassword => ?_
        rw [List.cons_append, apply_cons_of_plain (hplain password), h password hpassword,
          List.cons_append]

/-- A step of a pass writes something and goes on at some place. Both are known from the character
and from whether credentials are ahead of it. -/
theorem exists_step (kind : Text → Bool) (place : Place) (c : Char) (ahead : Bool) :
    ∃ (written : Text) (next : Place), ∀ rest : Text, credentialsAhead kind rest = ahead →
      applyFrom kind place (c :: rest) = written ++ applyFrom kind next rest := by
  cases place with
  | elsewhere =>
    refine ⟨[c], if c == ':' && ahead then .variant else .elsewhere, fun rest hahead => ?_⟩
    rw [applyFrom, hahead, List.singleton_append]
  | variant => exact ⟨[c], if c = ':' then .user else .variant, fun _ _ => rfl⟩
  | user =>
    by_cases hc : c = '/'
    · exact ⟨c :: stars, .password, fun _ _ => by rw [applyFrom, if_pos hc]⟩
    · exact ⟨[c], .user, fun _ _ => by rw [applyFrom, if_neg hc, List.singleton_append]⟩
  | password =>
    by_cases hc : c = '@'
    · exact ⟨[c], .elsewhere, fun _ _ => by rw [applyFrom, if_pos hc, List.singleton_append]⟩
    · exact ⟨[], .password, fun _ _ => by rw [applyFrom, if_neg hc, List.nil_append]⟩

/-- The credentials alone. Only from outside credentials are they kept. -/
theorem hidesOrKeeps_lead (hkind : SlashFree kind) (hmiddle : middle.Disjoint ['/', '@'])
    (rest : Text) (place : Place) :
    HidesOrKeeps (':' :: middle) fun password =>
      applyFrom kind place (':' :: middle ++ '/' :: (password ++ '@' :: rest)) := by
  have hslash : '/' ∉ ':' :: middle := by
    simpa using fun h => hmiddle h (by simp)
  have hinside : ∀ password : Text, password.Disjoint [':', '@'] →
      applyFrom kind .user (':' :: middle ++ '/' :: (password ++ '@' :: rest))
        = ':' :: middle ++ '/' :: (stars ++ '@' :: applyFrom kind .elsewhere rest) := by
    intro password hpassword
    have hat : '@' ∉ password := fun h => hpassword h (by simp)
    rw [applyFrom_user_append kind hslash, applyFrom_password_append kind hat]
  cases place with
  | elsewhere =>
    have hlead : (':' :: middle).Disjoint ['/', '@'] := by simpa using hmiddle
    rcases apply_lead hkind hlead rest with h | h
    · exact .inl h
    · exact .inr ⟨[], apply kind rest, h⟩
  | variant => exact .inl ⟨_, hinside⟩
  | user => exact .inl ⟨_, hinside⟩
  | password =>
    refine .inl ⟨'@' :: applyFrom kind .elsewhere rest, fun password hpassword => ?_⟩
    have hwhole : '@' ∉ ':' :: middle ++ '/' :: password := by
      simpa using ⟨fun h => hmiddle h (by simp), fun h => hpassword h (by simp)⟩
    simpa using applyFrom_password_append kind hwhole rest

/-- **A pass for another kind hides the password or keeps the credentials.** The induction is on what
stands in front of them: a step there does not depend on the password. -/
theorem hidesOrKeeps_applyFrom (hkind : SlashFree kind)
    (hmiddle : middle.Disjoint ['/', '@']) (before rest : Text) (place : Place) :
    HidesOrKeeps (':' :: middle) fun password => applyFrom kind place
      (before ++ (':' :: middle ++ '/' :: (password ++ '@' :: rest))) := by
  induction before generalizing place with
  | nil => exact hidesOrKeeps_lead hkind hmiddle rest place
  | cons c before ih =>
    obtain ⟨written, next, hstep⟩ := exists_step kind place c (kind (before.takeWhile (· != ':')))
    have hpass : ∀ password : Text, applyFrom kind place
        (c :: before ++ (':' :: middle ++ '/' :: (password ++ '@' :: rest)))
          = written ++ applyFrom kind next
            (before ++ (':' :: middle ++ '/' :: (password ++ '@' :: rest))) :=
      fun password => hstep _ (credentialsAhead_append kind before middle password rest)
    simp only [hpass]
    exact (ih next).append written

/-- The password of credentials leaves no trace in what two passes make of an address, if the second
pass is for their kind. -/
theorem apply_apply_secret_eq (hkind : SlashFree kind)
    {variant user password password' : Text} (hown : kind' variant = true)
    (hvariant : variant.Disjoint [':', '/', '@']) (huser : user.Disjoint ['/', '@'])
    (hpassword : password.Disjoint [':', '@']) (hpassword' : password'.Disjoint [':', '@'])
    (before rest : Text) :
    apply kind' (apply kind
        (before ++ ':' :: (variant ++ ':' :: (user ++ '/' :: (password ++ '@' :: rest)))))
      = apply kind' (apply kind
        (before ++ ':' :: (variant ++ ':' :: (user ++ '/' :: (password' ++ '@' :: rest))))) := by
  have hmiddle : (variant ++ ':' :: user).Disjoint ['/', '@'] := by
    rw [List.disjoint_append_left, List.disjoint_cons_left]
    exact ⟨List.disjoint_of_subset_right (by simp) hvariant, by simp, huser⟩
  have hshape : ∀ password rest : Text,
      ':' :: (variant ++ ':' :: (user ++ '/' :: (password ++ '@' :: rest)))
        = ':' :: (variant ++ ':' :: user) ++ '/' :: (password ++ '@' :: rest) := by
    intro password rest
    simp
  rw [hshape, hshape]
  rcases hidesOrKeeps_applyFrom hkind hmiddle before rest .elsewhere with
    ⟨masked, h⟩ | ⟨front, tail, h⟩
  · exact congrArg (apply kind') ((h _ hpassword).trans (h _ hpassword').symm)
  · have hat : '@' ∉ password := fun h => hpassword h (by simp)
    have hat' : '@' ∉ password' := fun h => hpassword' h (by simp)
    have hkept := congrArg (apply kind') (h _ hpassword)
    have hkept' := congrArg (apply kind') (h _ hpassword')
    rw [← hshape] at hkept hkept'
    refine hkept.trans (Eq.trans ?_ hkept'.symm)
    exact applyFrom_secret_eq hown hvariant huser hat hat' front tail .elsewhere

theorem slashFree_thin : SlashFree thin := by
  intro variant h
  rw [thin, beq_iff_eq] at h
  subst h
  decide

theorem oci_append (mode : Text) : oci ("oci" ++ mode) = true := by
  simp [oci]

end CredentialMask

namespace Dialect

open CredentialMask

variable {d : Dialect}

/-- Where no parameter opens in front of them, credentials reach the vendor's passes as they are. -/
theorem maskUrl_credentials (hd : d.vendor = .oracle) {before variant user password : Text}
    (hbefore : before.Disjoint ['?', '&', ';']) (hvariant : variant.Disjoint ['?', '&', ';'])
    (huser : user.Disjoint ['?', '&', ';']) (hpassword : password.Disjoint ['?', '&', ';'])
    (rest : Text) :
    d.maskUrl (before ++ ':' :: (variant ++ ':' :: (user ++ '/' :: (password ++ '@' :: rest))))
      = CredentialMask.apply oci (CredentialMask.apply thin
          (before ++ ':' :: (variant ++ ':' :: (user ++ '/' :: (password ++ '@' ::
            PasswordMask.apply rest))))) := by
  have hfront : (before ++ ':' :: (variant ++ ':' :: (user ++ '/' ::
      (password ++ ['@'])))).Disjoint ['?', '&', ';'] := by
    simp only [List.disjoint_append_left, List.disjoint_cons_left]
    exact ⟨hbefore, by decide, hvariant, by decide, huser, by decide, hpassword, by decide,
      List.disjoint_nil_left _⟩
  have happly := PasswordMask.apply_append hfront rest
  simp only [List.append_assoc, List.cons_append, List.nil_append] at happly
  rw [maskUrl, hd, happly]
  rfl

/-- **The password of credentials leaves no trace.** Two addresses that differ in that password only
are masked alike, for both drivers of the vendor. No parameter may open in front of the password's
end, as then the credentials might be the value of a parameter. For the call-interface driver there
may be no colon in the password, as it could start credentials of the thin driver. -/
theorem maskUrl_secret_eq (hd : d.vendor = .oracle) {before user password password' : Text}
    (hbefore : before.Disjoint ['?', '&', ';']) (huser : user.Disjoint ['/', '@', '?', '&', ';'])
    (hpassword : password.Disjoint ['@', '?', '&', ';'])
    (hpassword' : password'.Disjoint ['@', '?', '&', ';']) (rest : Text) :
    d.maskUrl (before ++ ":thin:" ++ user ++ "/" ++ password ++ "@" ++ rest)
        = d.maskUrl (before ++ ":thin:" ++ user ++ "/" ++ password' ++ "@" ++ rest) ∧
      ∀ mode : Text, mode.Disjoint [':', '/', '@', '?', '&', ';'] → ':' ∉ password →
        ':' ∉ password' →
        d.maskUrl (before ++ ":oci" ++ mode ++ ":" ++ user ++ "/" ++ password ++ "@" ++ rest)
          = d.maskUrl (before ++ ":oci" ++ mode ++ ":" ++ user ++ "/" ++ password' ++ "@" ++
              rest) := by
  have hopened : user.Disjoint ['?', '&', ';'] := List.disjoint_of_subset_right (by simp) huser
  have hslash : user.Disjoint ['/', '@'] := List.disjoint_of_subset_right (by simp) huser
  have hclosed : password.Disjoint ['?', '&', ';'] :=
    List.disjoint_of_subset_right (by simp) hpassword
  have hclosed' : password'.Disjoint ['?', '&', ';'] :=
    List.disjoint_of_subset_right (by simp) hpassword'
  have hat : '@' ∉ password := fun h => hpassword h (by simp)
  have hat' : '@' ∉ password' := fun h => hpassword' h (by simp)
  constructor
  · have hshape : ∀ password : Text, before ++ ":thin:" ++ user ++ "/" ++ password ++ "@" ++ rest
        = before ++ ':' :: ("thin" ++ ':' :: (user ++ '/' :: (password ++ '@' :: rest))) := by
      intro password
      simp
    have hthin : ("thin" : Text).Disjoint ['?', '&', ';'] := by simp
    rw [hshape, hshape, maskUrl_credentials hd hbefore hthin hopened hclosed,
      maskUrl_credentials hd hbefore hthin hopened hclosed']
    exact congrArg (CredentialMask.apply oci)
      (applyFrom_secret_eq (by rfl) (by simp) hslash hat hat' before _ .elsewhere)
  · intro mode hmode hcolon hcolon'
    have hshape : ∀ password : Text,
        before ++ ":oci" ++ mode ++ ":" ++ user ++ "/" ++ password ++ "@" ++ rest
          = before ++ ':' :: (("oci" ++ mode) ++ ':' ::
              (user ++ '/' :: (password ++ '@' :: rest))) := by
      intro password
      simp
    have hmodeOpened : (("oci" : Text) ++ mode).Disjoint ['?', '&', ';'] := by
      have : mode.Disjoint ['?', '&', ';'] := List.disjoint_of_subset_right (by simp) hmode
      simpa using this
    have hmodeMarks : (("oci" : Text) ++ mode).Disjoint [':', '/', '@'] := by
      have : mode.Disjoint [':', '/', '@'] := List.disjoint_of_subset_right (by simp) hmode
      simpa using this
    rw [hshape, hshape, maskUrl_credentials hd hbefore hmodeOpened hopened hclosed,
      maskUrl_credentials hd hbefore hmodeOpened hopened hclosed']
    exact apply_apply_secret_eq slashFree_thin (oci_append mode) hmodeMarks hslash
      (by simp [hcolon, hat]) (by simp [hcolon', hat']) before _

/-- Both drivers, where an earlier colon starts a shape that runs over the credentials. -/
theorem maskUrl_secret_eq_overlapping :
    (oracle {}).maskUrl (":oci8" ++ ":thin:" ++ "scott" ++ "/" ++ "tiger" ++ "@" ++ "db?a=1")
        = (oracle {}).maskUrl (":oci8" ++ ":thin:" ++ "scott" ++ "/" ++ ":x" ++ "@" ++ "db?a=1") ∧
      (oracle {}).maskUrl (":thin" ++ ":oci" ++ "8" ++ ":" ++ "scott" ++ "/" ++ "tiger" ++ "@" ++
          "db?a=1")
        = (oracle {}).maskUrl (":thin" ++ ":oci" ++ "8" ++ ":" ++ "scott" ++ "/" ++ "" ++ "@" ++
          "db?a=1") :=
  ⟨(maskUrl_secret_eq rfl (by simp) (by simp) (by simp) (by simp) _).1,
    (maskUrl_secret_eq rfl (by simp) (by simp) (by simp) (by simp) _).2 _ (by simp) (by simp)
      (by simp)⟩

end Dialect

end SqlDialect
