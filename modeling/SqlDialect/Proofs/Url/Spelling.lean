import SqlDialect.Proofs.Url.Parts
import SqlDialect.Proofs.Url.Selection

/-!
# Spellings of an address

An address may be written with the mark in front or without it, and the kind of database in any
case. All these spellings name the same database: they are taken apart into the same parts, and the
same provider is chosen for them. They differ in the text that is shown, which keeps the spelling.

## Scores of one spelling

A provider is free to score an address by the text that is shown of it, and then the spelling may
matter. Providers that look at the kind of database only cannot tell the spellings apart, and a
registry that has no other ones cannot either: which provider leads is known from the scores.

## Main definitions

* `Provider.ScoresBySubprotocol` — providers that look at the kind of database only
* `Registry.chosen?` — the provider that makes the dialect for an address

## Main results

* `Registry.best?_congr` — addresses with the same scores have the same provider
* `Registry.toOption_dialectFor` — the dialect for an address is made by the provider that is chosen
* `ConnectionUrl.parse_spellings` — which addresses are taken apart, and what their spelling changes
-/

namespace SqlDialect

/-! ### Providers that look at the kind of database -/

namespace Provider

variable {p : Provider} {address address' : ConnectionUrl} {providers : List Provider}

/-- The score depends on the kind of database only. -/
def ScoresBySubprotocol (p : Provider) : Prop :=
  ∀ address address' : ConnectionUrl, address.subprotocol = address'.subprotocol →
    p.score address = p.score address'

theorem scoresBySubprotocol_generic : generic.ScoresBySubprotocol := fun _ _ _ => rfl

theorem scoresBySubprotocol_of_score_eq {subprotocols : List Text}
    (h : p.score = scoreBySubprotocol subprotocols) : p.ScoresBySubprotocol := by
  intro address address' hsame
  rw [h, scoreBySubprotocol, scoreBySubprotocol, hsame]

theorem scoresBySubprotocol_oracle : oracle.ScoresBySubprotocol :=
  scoresBySubprotocol_of_score_eq rfl

/-- Who leads is known from the scores. -/
theorem Leads.congr (h : ∀ q ∈ providers, q.score address = q.score address')
    (hp : p.Leads address providers) : p.Leads address' providers := by
  have hself := h p hp.mem
  obtain ⟨before, after, rfl, hbefore, hafter⟩ := hp
  refine ⟨before, after, rfl, fun q hq => ?_, fun q hq => ?_⟩
  · rw [← hself, ← h q (by simp [hq])]
    exact hbefore q hq
  · rw [← hself, ← h q (by simp [hq])]
    exact hafter q hq

end Provider

namespace Registry

variable {r : Registry} {address address' : ConnectionUrl} {url url' : Text}

/-- **Addresses with the same scores have the same provider.** -/
theorem best?_congr (h : ∀ p ∈ r.providers, p.score address = p.score address') :
    r.best? address = r.best? address' := by
  have hmono : ∀ {address address' : ConnectionUrl} {p : Provider},
      (∀ q ∈ r.providers, q.score address = q.score address') →
        r.best? address = some p → r.best? address' = some p := by
    intro address address' p hsame hbest
    obtain ⟨hleads, hpos⟩ := best?_eq_some_iff.mp hbest
    exact best?_eq_some_iff.mpr ⟨hleads.congr hsame, hsame p hleads.mem ▸ hpos⟩
  exact Option.ext fun p => ⟨hmono h, hmono fun q hq => (h q hq).symm⟩

/-- The provider that makes the dialect for an address; none if the address cannot be taken apart
and none if it has no provider. -/
def chosen? (r : Registry) (url : Text) : Option Provider :=
  (ConnectionUrl.parse url).toOption.bind r.best?

/-- A dialect is made by the provider that is chosen. -/
theorem toOption_dialectFor (r : Registry) (url : Text) (config : Config) :
    (r.dialectFor url config).toOption = (r.chosen? url).map (·.create config) := by
  rw [dialectFor, chosen?]
  cases ConnectionUrl.parse url with
  | error e => rfl
  | ok address =>
    simp only [Except.toOption, Option.bind_some]
    cases r.best? address <;> rfl

/-- Addresses of one kind of database have the same provider, and where there is none they have the
same error. -/
theorem dialectFor_congr (hr : ∀ p ∈ r.providers, p.ScoresBySubprotocol)
    (h : ConnectionUrl.parse url = .ok address) (h' : ConnectionUrl.parse url' = .ok address')
    (hsame : address.subprotocol = address'.subprotocol) :
    r.chosen? url = r.chosen? url' ∧
      ∀ config, r.dialectFor url config = r.dialectFor url' config := by
  have hbest : r.best? address = r.best? address' :=
    best?_congr fun p hp => hr p hp address address' hsame
  refine ⟨?_, fun config => ?_⟩
  · rw [chosen?, chosen?, h, h']
    exact hbest
  · rw [dialectFor, dialectFor, h, h']
    simp only [hbest, hsame]

/-- All providers of the library look at the kind of database only. -/
theorem scoresBySubprotocol_withOracle {p : Provider} (hp : p ∈ withOracle.providers) :
    p.ScoresBySubprotocol := by
  rcases List.mem_cons.mp hp with rfl | hp
  · exact Provider.scoresBySubprotocol_generic
  · rw [List.mem_singleton.mp hp]
    exact Provider.scoresBySubprotocol_oracle

end Registry

/-! ### The spellings -/

namespace ConnectionUrl

variable {url rest mark kind kind' name : Text}

theorem hasMark_congr (h : Text.asciiLower kind' = Text.asciiLower kind) (name : Text) :
    HasMark (kind' ++ name) ↔ HasMark (kind ++ name) := by
  rw [hasMark_iff, hasMark_iff, Text.asciiLower_append, Text.asciiLower_append, h]

/-- The kind of database in another case is one. -/
theorem kind_respelled (h : Text.asciiLower kind' = Text.asciiLower kind) (hkind : kind ≠ [])
    (hcolon : ':' ∉ kind) : kind' ≠ [] ∧ ':' ∉ kind' := by
  constructor
  · rintro rfl
    exact hkind (List.map_eq_nil_iff.mp h.symm)
  · rwa [← Text.mem_asciiLower_iff rfl, h, Text.mem_asciiLower_iff rfl]

/-- **Which addresses are taken apart, and what their spelling changes.** Without the mark in front,
which may be written in any case, an address has to be something without a colon, a colon, and
anything; these are the kind of database in lower case and the rest. One mark more in front of an
address without a mark keeps the parts and stands in front of what is shown, also where the address
cannot be taken apart. Where all providers look at the kind of database only, it keeps the provider,
and so does any case of the kind of database. -/
theorem parse_spellings (h : Unmarked url rest) :
    (∀ address, parse url = .ok address ↔
      ∃ kind name, rest = kind ++ ':' :: name ∧ kind ≠ [] ∧ ':' ∉ kind ∧
        address = ⟨Text.asciiLower kind, name, PasswordMask.apply url⟩) ∧
    (¬ HasMark rest → ∀ mark, IsMark mark →
      ((∃ kind name masked, parse rest = .ok ⟨kind, name, masked⟩ ∧
          parse (mark ++ rest) = .ok ⟨kind, name, mark ++ masked⟩) ∨
        ∃ masked, parse rest = .error (.invalidUrl masked) ∧
          parse (mark ++ rest) = .error (.invalidUrl (mark ++ masked))) ∧
      ∀ r : Registry, (∀ p ∈ r.providers, p.ScoresBySubprotocol) →
        r.chosen? (mark ++ rest) = r.chosen? rest ∧
        ∀ kind name, rest = kind ++ ':' :: name → kind ≠ [] → ':' ∉ kind →
          ∀ kind', Text.asciiLower kind' = Text.asciiLower kind →
            ∀ url' ∈ [kind' ++ ':' :: name, mark ++ (kind' ++ ':' :: name)],
              r.chosen? url' = r.chosen? rest ∧
                ∀ config, r.dialectFor url' config = r.dialectFor rest config) := by
  refine ⟨fun address => parse_eq_ok_iff h, fun hplain mark hmark => ?_⟩
  have hboth := parse_mark_append hmark hplain
  refine ⟨hboth, fun r hr => ⟨?_, ?_⟩⟩
  · rcases hboth with ⟨kind, name, masked, hrest, hmarked⟩ | ⟨masked, hrest, hmarked⟩
    · exact (Registry.dialectFor_congr hr hmarked hrest rfl).1
    · rw [Registry.chosen?, Registry.chosen?, hrest, hmarked]
      rfl
  · rintro kind name rfl hkind hcolon kind' hsame url' hurl'
    obtain ⟨hkind', hcolon'⟩ := kind_respelled hsame hkind hcolon
    have hplain' : ¬ HasMark (kind' ++ ':' :: name) :=
      fun hmarked => hplain ((hasMark_congr hsame _).mp hmarked)
    have hunmarked : Unmarked url' (kind' ++ ':' :: name) := by
      simp only [List.mem_cons, List.not_mem_nil, or_false] at hurl'
      rcases hurl' with rfl | rfl
      · exact .plain hplain'
      · exact .marked hmark _
    exact Registry.dialectFor_congr hr (parse_of_unmarked hunmarked hkind' hcolon')
      (parse_of_unmarked (.plain hplain) hkind hcolon) hsame

/-- An address with the mark in capital letters, characters of several bytes and a password. -/
theorem parse_spellings_oracle :
    Unmarked "JDBC:Oracle:@dß?password=ſ" "Oracle:@dß?password=ſ" ∧
      parse "JDBC:Oracle:@dß?password=ſ"
        = .ok ⟨"oracle", "@dß?password=ſ", "JDBC:Oracle:@dß?password=****"⟩ ∧
      Registry.withOracle.chosen? "jdbc:ORACLE:@dß?password=ſ"
        = Registry.withOracle.chosen? "Oracle:@dß?password=ſ" := by
  have hunmarked : Unmarked "JDBC:Oracle:@dß?password=ſ" "Oracle:@dß?password=ſ" :=
    unmarked_iff.mpr (by decide)
  have hrest : ("Oracle:@dß?password=ſ" : Text) = "Oracle" ++ ':' :: "@dß?password=ſ" := by decide
  have hurl : ("jdbc:" : Text) ++ ("ORACLE" ++ ':' :: "@dß?password=ſ")
      = "jdbc:ORACLE:@dß?password=ſ" := by decide
  have hkind : Text.asciiLower "Oracle" = "oracle" := by decide
  have hshown : PasswordMask.apply "JDBC:Oracle:@dß?password=ſ"
      = "JDBC:Oracle:@dß?password=****" := by decide
  obtain ⟨hparse, hspellings⟩ := parse_spellings hunmarked
  have hchosen := (hspellings (by decide) "jdbc:" isMark_scheme).2 .withOracle
    fun _ => Registry.scoresBySubprotocol_withOracle
  have hsame := hchosen.2 "Oracle" "@dß?password=ſ" hrest (by decide) (by decide) "ORACLE"
    (by decide) _ (List.mem_cons_of_mem _ List.mem_cons_self)
  rw [hurl] at hsame
  exact ⟨hunmarked,
    (hparse _).mpr ⟨_, _, hrest, by decide, by decide, by rw [hkind, hshown]⟩, hsame.1⟩

end ConnectionUrl

end SqlDialect
