import SqlDialect.Config.Options
import SqlDialect.Dialect.Profile

/-!
# Dialects

A dialect is a profile, a vendor whose own rules come first, and the configuration it was made
with. It does not change afterwards, so all names of a session are written and read in one way.

## Main definitions

* `Dialect` — a configured dialect; `Dialect.generic` and `Dialect.oracle` make one
* `Dialect.policy` — how it writes and reads names
-/

namespace SqlDialect

/-- A configured dialect. -/
structure Dialect where
  /-- What is particular about the database. -/
  profile : Profile
  /-- Whose own rules are tried before the common ones. -/
  vendor : Vendor
  /-- What the dialect was set up with. -/
  config : Config
  deriving DecidableEq

namespace Dialect

/-- The dialect for a database about which nothing is known. -/
def generic (config : Config) : Dialect := ⟨.generic, .generic, config⟩

/-- The dialect for the Oracle database. -/
def oracle (config : Config) : Dialect := ⟨.oracle, .oracle, config⟩

/-- The name of the dialect. -/
def name (d : Dialect) : Text := d.profile.name

/-- How the dialect writes and reads names. -/
def policy (d : Dialect) : Policy :=
  ⟨d.profile.rules, d.config.quoting, d.profile.canonicalCase⟩

/-- The options of the sink, if there is one. -/
def sink (d : Dialect) : Option SinkOptions := d.config.sink

/-- One part of a name as it is written. -/
def quote (d : Dialect) (name : Text) : Text := d.policy.quote name

/-- The table a written name stands for. -/
def parseTable (d : Dialect) (text : Text) : Except Error TableId := d.policy.parseTable text

/-- The table name in the case in effect. -/
def normalize (d : Dialect) (table : TableId) : TableId := d.policy.normalize table

end Dialect

end SqlDialect
