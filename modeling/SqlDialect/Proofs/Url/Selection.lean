import Mathlib.Data.List.Induction
import SqlDialect.Proofs.Url.Exposure
import SqlDialect.Registry

/-!
# The provider for an address

A registry goes through its providers once and keeps the best one so far. Another one takes its
place only with a higher score, so the first of several equals stays.

## A score of zero

There is no best provider before the first one, and then a score of zero is the one to beat. So a
registry may find no provider although it has some. This does not happen to a registry that grew
from the one with only the provider for databases nothing is known about: that provider is in it and
serves every address a little, hence only an address that cannot be taken apart is refused.

## One provider more

Providers are registered at the end, where they lose against their equals. Registering one changes
the choice for an address exactly if its score is higher than all scores before.

## Main definitions

* `Provider.Leads` — the first provider with the highest score
* `Registry.registerAll` — a registry with more providers

## Main results

* `Registry.best?_eq_some_iff` — the provider that a registry finds for an address
* `Registry.best?_register_ne_iff` — when one provider more changes the choice
* `Registry.dialectFor_registerAll` — the dialect for an address, after any number of registrations
-/

namespace SqlDialect

/-! ### The first provider with the highest score -/

/-- `p` is the first provider with the highest score for an address: those in front of it score
lower, and those behind it not higher. -/
def Provider.Leads (p : Provider) (address : ConnectionUrl) (providers : List Provider) : Prop :=
  ∃ before after, providers = before ++ p :: after ∧
    (∀ q ∈ before, q.score address < p.score address) ∧
    ∀ q ∈ after, q.score address ≤ p.score address

namespace Provider.Leads

variable {p p' q : Provider} {address : ConnectionUrl} {providers : List Provider}

theorem mem (h : p.Leads address providers) : p ∈ providers := by
  obtain ⟨before, after, rfl, -, -⟩ := h
  simp

theorem score_le (h : p.Leads address providers) (hq : q ∈ providers) :
    q.score address ≤ p.score address := by
  obtain ⟨before, after, rfl, hbefore, hafter⟩ := h
  rcases List.mem_append.mp hq with hq | hq
  · exact Nat.le_of_lt (hbefore q hq)
  · rcases List.mem_cons.mp hq with rfl | hq
    · exact Nat.le_refl _
    · exact hafter q hq

/-- A provider leads from the end if it scores higher than all others. -/
theorem concat_self (h : ∀ q ∈ providers, q.score address < p.score address) :
    p.Leads address (providers ++ [p]) :=
  ⟨providers, [], rfl, h, by simp⟩

/-- It goes on leading if the one at the end does not score higher. -/
theorem concat (h : p.Leads address providers) (hq : q.score address ≤ p.score address) :
    p.Leads address (providers ++ [q]) := by
  obtain ⟨before, after, rfl, hbefore, hafter⟩ := h
  refine ⟨before, after ++ [q], by simp, hbefore, fun q' hq' => ?_⟩
  rcases List.mem_append.mp hq' with hq' | hq'
  · exact hafter q' hq'
  · rw [List.mem_singleton.mp hq']
    exact hq

/-- There is at most one: of two places, the later one would score higher and not higher. -/
theorem unique (h : p.Leads address providers) (h' : p'.Leads address providers) : p = p' := by
  obtain ⟨before, after, rfl, hbefore, hafter⟩ := h
  obtain ⟨before', after', hsame, hbefore', hafter'⟩ := h'
  rcases List.append_eq_append_iff.mp hsame with ⟨middle, rfl, htail⟩ | ⟨middle, rfl, htail⟩
  · cases middle with
    | nil => exact (List.cons.inj htail).1
    | cons c middle =>
      obtain ⟨rfl, rfl⟩ := List.cons.inj htail
      exact absurd (hbefore' p (by simp)) (Nat.not_lt.mpr (hafter p' (by simp)))
  · cases middle with
    | nil => exact (List.cons.inj htail).1.symm
    | cons c middle =>
      obtain ⟨rfl, rfl⟩ := List.cons.inj htail
      exact absurd (hbefore p' (by simp)) (Nat.not_lt.mpr (hafter' p (by simp)))

end Provider.Leads

namespace Registry

variable {r : Registry} {p q : Provider} {address : ConnectionUrl}

/-! ### One look at a provider -/

theorem better_none (address : ConnectionUrl) (q : Provider) :
    better address none q = if 0 < q.score address then some q else none := rfl

theorem better_some (address : ConnectionUrl) (p q : Provider) :
    better address (some p) q
      = some (if p.score address < q.score address then q else p) := by
  rw [better, apply_ite some]
  rfl

/-- One provider more is looked at last. -/
theorem best?_register (r : Registry) (address : ConnectionUrl) (q : Provider) :
    (r.register q).best? address = better address (r.best? address) q :=
  List.foldl_concat _ _ _ _

/-- Either no provider scores at all, or the best one so far leads. -/
def Found (address : ConnectionUrl) (providers : List Provider) : Option Provider → Prop
  | none => ∀ q ∈ providers, q.score address = 0
  | some p => p.Leads address providers ∧ 0 < p.score address

/-- What was found before one provider more is found with it, or it is that provider. -/
theorem Found.better {providers : List Provider} {best : Option Provider}
    (h : Found address providers best) (q : Provider) :
    Found address (providers ++ [q]) (better address best q) := by
  cases best with
  | none =>
    rw [better_none]
    split
    · next hq =>
      refine ⟨.concat_self fun q' hq' => ?_, hq⟩
      rw [h q' hq']
      exact hq
    · next hq =>
      intro q' hq'
      rcases List.mem_append.mp hq' with hq' | hq'
      · exact h q' hq'
      · rw [List.mem_singleton.mp hq']
        exact Nat.eq_zero_of_not_pos hq
  | some p =>
    obtain ⟨hleads, hpos⟩ := h
    rw [better_some]
    split
    · next hq =>
      exact ⟨.concat_self fun q' hq' => Nat.lt_of_le_of_lt (hleads.score_le hq') hq,
        Nat.lt_trans hpos hq⟩
    · next hq => exact ⟨hleads.concat (Nat.not_lt.mp hq), hpos⟩

/-- **One pass over the providers finds the first one with the highest score.** -/
theorem found_best? (r : Registry) (address : ConnectionUrl) :
    Found address r.providers (r.best? address) := by
  obtain ⟨providers⟩ := r
  induction providers using List.reverseRecOn with
  | nil => simp [best?, Found]
  | append_singleton providers q ih =>
    have hlast := best?_register ⟨providers⟩ address q
    rw [register] at hlast
    rw [hlast]
    exact ih.better q

theorem best?_eq_some_iff :
    r.best? address = some p ↔ p.Leads address r.providers ∧ 0 < p.score address := by
  have hfound := r.found_best? address
  cases hbest : r.best? address with
  | none =>
    rw [hbest] at hfound
    refine iff_of_false (Option.some_ne_none p).symm fun ⟨hleads, hpos⟩ => ?_
    exact absurd (hfound p hleads.mem) (Nat.ne_of_gt hpos)
  | some p' =>
    rw [hbest] at hfound
    refine ⟨fun h => Option.some.inj h ▸ hfound, fun ⟨hleads, _⟩ => ?_⟩
    rw [hfound.1.unique hleads]

/-- Where some provider leads, another one changes the choice exactly if it scores higher than all
of them, and then it is the choice. -/
theorem best?_register_eq (h : r.best? address = some p) (q : Provider) :
    (r.register q).best? address
      = some (if ∀ q' ∈ r.providers, q'.score address < q.score address then q else p) := by
  obtain ⟨hleads, -⟩ := best?_eq_some_iff.mp h
  have hall : (∀ q' ∈ r.providers, q'.score address < q.score address) ↔
      p.score address < q.score address :=
    ⟨fun hlower => hlower p hleads.mem,
      fun hlower q' hq' => Nat.lt_of_le_of_lt (hleads.score_le hq') hlower⟩
  rw [best?_register, h, better_some]
  simp only [hall]

theorem best?_register_ne_iff (h : r.best? address = some p) (q : Provider) :
    (r.register q).best? address ≠ r.best? address ↔
      ∀ q' ∈ r.providers, q'.score address < q.score address := by
  rw [best?_register_eq h, h]
  split
  · next hlower =>
    refine iff_of_true (fun hsame => ?_) hlower
    have hp := hlower p (best?_eq_some_iff.mp h).1.mem
    rw [Option.some.inj hsame] at hp
    exact Nat.lt_irrefl _ hp
  · next hlower => exact iff_of_false (fun hne => hne rfl) hlower

/-! ### Registries that grew -/

/-- The registry with more providers, registered one after the other. -/
def registerAll (r : Registry) (added : List Provider) : Registry := added.foldl register r

theorem registerAll_concat (r : Registry) (added : List Provider) (q : Provider) :
    r.registerAll (added ++ [q]) = (r.registerAll added).register q :=
  List.foldl_concat _ _ _ _

theorem providers_registerAll (r : Registry) (added : List Provider) :
    (r.registerAll added).providers = r.providers ++ added := by
  induction added generalizing r with
  | nil => exact (List.append_nil _).symm
  | cons q added ih =>
    have hnext := ih (r.register q)
    rw [register, List.append_assoc] at hnext
    exact hnext

/-- The providers of a registry that grew from the one with only the provider for databases nothing
is known about, which is the first of them. -/
theorem providers_registerAll_core (added : List Provider) :
    (core.registerAll added).providers = .generic :: added :=
  providers_registerAll core added

/-- Such a registry finds a provider for every address. -/
theorem exists_best?_registerAll_core (added : List Provider) (address : ConnectionUrl) :
    ∃ p, (core.registerAll added).best? address = some p ∧
      p.Leads address (.generic :: added) := by
  have hfound := (core.registerAll added).found_best? address
  rw [providers_registerAll_core] at hfound
  cases hbest : (core.registerAll added).best? address with
  | some p =>
    rw [hbest] at hfound
    exact ⟨p, rfl, hfound.1⟩
  | none =>
    rw [hbest] at hfound
    have hzero : Provider.generic.score address = 0 := hfound .generic List.mem_cons_self
    exact absurd hzero (by decide : Provider.fallbackScore ≠ 0)

/-! ### The dialect for an address -/

theorem dialectFor_of_parse_error {url : Text} {e : Error} (h : ConnectionUrl.parse url = .error e)
    (r : Registry) (config : Config) : r.dialectFor url config = .error e := by
  rw [dialectFor, h]

theorem dialectFor_of_best? {url : Text} (h : ConnectionUrl.parse url = .ok address)
    (hbest : r.best? address = some p) (config : Config) :
    r.dialectFor url config = .ok (p.create config) := by
  rw [dialectFor, h]
  simp only [hbest]

/-- **The dialect for an address is made by the first provider with the highest score**, whatever
was registered. Only an address that cannot be taken apart is refused, and then with the error for
it, so never because no provider is found. Registering one provider more changes the choice for an
address if and only if its score is higher than all scores before, and then the choice is that
provider. -/
theorem dialectFor_registerAll (added : List Provider) (url : Text) (config : Config) :
    (∀ e, (core.registerAll added).dialectFor url config = .error e ↔
      ConnectionUrl.parse url = .error e) ∧
    (∀ e, (core.registerAll added).dialectFor url config = .error e →
      e = .invalidUrl (PasswordMask.apply url)) ∧
    ∀ address, ConnectionUrl.parse url = .ok address →
      ∃ p, p.Leads address (.generic :: added) ∧
        (core.registerAll added).best? address = some p ∧
        (core.registerAll added).dialectFor url config = .ok (p.create config) ∧
        ∀ q : Provider,
          ((core.registerAll (added ++ [q])).best? address
              ≠ (core.registerAll added).best? address ↔
            ∀ q' ∈ Provider.generic :: added, q'.score address < q.score address) ∧
          (core.registerAll (added ++ [q])).dialectFor url config
            = .ok (if ∀ q' ∈ Provider.generic :: added, q'.score address < q.score address
                then q.create config else p.create config) := by
  rcases ConnectionUrl.parse_cases url with ⟨kind, name, hparse⟩ | hparse
  · obtain ⟨p, hbest, hleads⟩ :=
      exists_best?_registerAll_core added ⟨kind, name, PasswordMask.apply url⟩
    have hdialect := dialectFor_of_best? hparse hbest config
    refine ⟨fun e => ?_, fun e he => ?_, fun address haddress => ?_⟩
    · simp [hdialect, hparse]
    · simp [hdialect] at he
    · obtain rfl := Except.ok.inj (hparse.symm.trans haddress)
      refine ⟨p, hleads, hbest, hdialect, fun q => ?_⟩
      have hchange := best?_register_ne_iff hbest q
      have hnext := best?_register_eq hbest q
      rw [← registerAll_concat, providers_registerAll_core] at hchange hnext
      refine ⟨hchange, ?_⟩
      rw [dialectFor_of_best? hparse hnext, apply_ite (Provider.create · config)]
  · have hdialect := dialectFor_of_parse_error hparse (core.registerAll added) config
    refine ⟨fun e => ?_, fun e he => ?_, fun address haddress => ?_⟩
    · simp [hdialect, hparse]
    · exact (Except.error.inj (hdialect.symm.trans he)).symm
    · exact absurd (hparse.symm.trans haddress) (by simp)

/-- A provider that serves every address as well as the one for the Oracle database serves its own
comes too late. -/
theorem dialectFor_registerAll_tie :
    ConnectionUrl.parse "jdbc:Oracle:x" = .ok ⟨"oracle", "x", "jdbc:Oracle:x"⟩ ∧
    (core.registerAll ([.oracle] ++ [⟨"any", fun _ => 100, Dialect.generic⟩])).dialectFor
      "jdbc:Oracle:x" {} = .ok (Dialect.oracle {}) := by
  have hparse : ConnectionUrl.parse "jdbc:Oracle:x" = .ok ⟨"oracle", "x", "jdbc:Oracle:x"⟩ := by
    rfl
  have horacle : (core.registerAll [.oracle]).dialectFor "jdbc:Oracle:x" {}
      = .ok (Dialect.oracle {}) := by rfl
  obtain ⟨p, -, -, hdialect, hmore⟩ :=
    (dialectFor_registerAll [.oracle] "jdbc:Oracle:x" {}).2.2 _ hparse
  have hnext := (hmore ⟨"any", fun _ => 100, Dialect.generic⟩).2
  have hequal : ¬ ∀ q ∈ [Provider.generic, .oracle], q.score ⟨"oracle", "x", "jdbc:Oracle:x"⟩ < 100 :=
    fun hlower => absurd (hlower .oracle (by simp)) (by decide)
  rw [if_neg hequal, ← hdialect, horacle] at hnext
  exact ⟨hparse, hnext⟩

end Registry

end SqlDialect
