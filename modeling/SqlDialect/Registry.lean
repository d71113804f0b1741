import SqlDialect.Text.Shown
import SqlDialect.Url

/-!
# Registry of dialects

A provider stands for a dialect: it says how well it serves an address and makes the dialect. The
registry keeps providers in the order in which they were registered; the one for databases nothing
is known about is always the first, and serves every address a little.

The best provider is the one with the highest score, the earliest of several. A score of zero means
that the address cannot be served.

## Main definitions

* `Provider` — a dialect that can be made; `Provider.generic`, `Provider.oracle`
* `Registry` — the providers; `Registry.core`, `Registry.register`
* `Registry.dialectFor`, `Registry.dialectNamed` — the dialect for an address and for a name
-/

namespace SqlDialect

/-- A dialect that can be made. -/
structure Provider where
  /-- The name of the dialect. -/
  name : Text
  /-- How well it serves an address; zero if it cannot. -/
  score : ConnectionUrl → Nat
  /-- The dialect with a configuration. -/
  create : Config → Dialect

namespace Provider

/-- The score of an address that is served for want of something better. -/
def fallbackScore : Nat := 10

/-- The score of an address whose subprotocol is the provider's own. -/
def preferredScore : Nat := 100

/-- The score by subprotocol: all or nothing. -/
def scoreBySubprotocol (subprotocols : List Text) (url : ConnectionUrl) : Nat :=
  if subprotocols.contains url.subprotocol then preferredScore else 0

/-- The provider for databases nothing is known about. -/
def generic : Provider where
  name := Profile.generic.name
  score := fun _ => fallbackScore
  create := Dialect.generic

/-- The provider for the Oracle database. -/
def oracle : Provider where
  name := Profile.oracle.name
  score := scoreBySubprotocol ["oracle"]
  create := Dialect.oracle

end Provider

/-- The providers, in the order in which they were registered. -/
structure Registry where
  /-- The providers. -/
  providers : List Provider

namespace Registry

/-- The registry with only the provider for databases nothing is known about. -/
def core : Registry := ⟨[.generic]⟩

/-- The registry with one provider more. -/
def register (r : Registry) (provider : Provider) : Registry := ⟨r.providers ++ [provider]⟩

/-- The registry with the provider for the Oracle database. -/
def withOracle : Registry := core.register .oracle

/-- The names of the providers. -/
def names (r : Registry) : List Text := r.providers.map (·.name)

/-- The registry as it is shown to a reader. -/
def shown (r : Registry) : Text :=
  "DialectRegistry \x7b providers: [" ++ Text.join ", " (r.names.map Text.shown) ++ "] \x7d"

/-- The better of a provider found so far and another one, which has to score higher. -/
def better (url : ConnectionUrl) (best : Option Provider) (provider : Provider) :
    Option Provider :=
  if (best.map (·.score url)).getD 0 < provider.score url then some provider else best

/-- The provider with the highest score, the earliest of several; none if all scores are zero. -/
def best? (r : Registry) (url : ConnectionUrl) : Option Provider :=
  r.providers.foldl (better url) none

/-- The dialect for an address. -/
def dialectFor (r : Registry) (url : Text) (config : Config) : Except Error Dialect :=
  match ConnectionUrl.parse url with
  | .error error => .error error
  | .ok url =>
    match r.best? url with
    | some provider => .ok (provider.create config)
    | none => .error (.unknownDialect url.subprotocol)

/-- The dialect of a name, in whatever case. -/
def dialectNamed (r : Registry) (name : Text) (config : Config) : Except Error Dialect :=
  match r.providers.find? fun provider => Text.eqIgnoringAsciiCase provider.name name with
  | some provider => .ok (provider.create config)
  | none => .error (.unknownDialect name)

end Registry

end SqlDialect
