import ContentLine.Zone.Data.Americas
import ContentLine.Zone.Data.Europe
import ContentLine.Zone.Data.Elsewhere
import ContentLine.Zone.Database
import ContentLine.Zone.Names

/-!
# An excerpt of the IANA database

The database that the library runs with where no other is at hand: the names of the IANA time zone
database, and the rules of those zones whose offsets are ever asked for.

## Main definitions

- `Zone.ruled`: the zones whose rules are part of the excerpt.
- `ZoneDatabase.excerpt`: the excerpt as a database.

## Main statements

- `Zone.rules_named_of_ruled`: what holds of all rules of the excerpt holds of its zones.
-/

namespace ContentLine

namespace Zone

/-- The zones that keep the time of UTC. -/
def universal : List (String × Rules) :=
  [("UTC", .constant 0), ("Etc/UTC", .constant 0), ("Etc/UCT", .constant 0),
    ("Etc/Universal", .constant 0), ("Etc/Zulu", .constant 0), ("UCT", .constant 0),
    ("Universal", .constant 0), ("Zulu", .constant 0), ("GMT", .constant 0),
    ("Etc/GMT", .constant 0), ("Etc/GMT0", .constant 0), ("Etc/Greenwich", .constant 0),
    ("GMT+0", .constant 0), ("GMT-0", .constant 0), ("GMT0", .constant 0),
    ("Greenwich", .constant 0)]

/-- The zones whose clocks are set in whole hours west (`+`) or east (`-`) of UTC. -/
def hourly : List (String × Rules) :=
  [("Etc/GMT+0", .constant 0), ("Etc/GMT+1", .constant (-3600)), ("Etc/GMT+2", .constant (-7200)),
    ("Etc/GMT+3", .constant (-10800)), ("Etc/GMT+4", .constant (-14400)),
    ("Etc/GMT+5", .constant (-18000)), ("Etc/GMT+6", .constant (-21600)),
    ("Etc/GMT+7", .constant (-25200)), ("Etc/GMT+8", .constant (-28800)),
    ("Etc/GMT+9", .constant (-32400)), ("Etc/GMT+10", .constant (-36000)),
    ("Etc/GMT+11", .constant (-39600)), ("Etc/GMT+12", .constant (-43200)),
    ("Etc/GMT-0", .constant 0), ("Etc/GMT-1", .constant 3600), ("Etc/GMT-2", .constant 7200),
    ("Etc/GMT-3", .constant 10800), ("Etc/GMT-4", .constant 14400),
    ("Etc/GMT-5", .constant 18000), ("Etc/GMT-6", .constant 21600),
    ("Etc/GMT-7", .constant 25200), ("Etc/GMT-8", .constant 28800),
    ("Etc/GMT-9", .constant 32400), ("Etc/GMT-10", .constant 36000),
    ("Etc/GMT-11", .constant 39600), ("Etc/GMT-12", .constant 43200),
    ("Etc/GMT-13", .constant 46800), ("Etc/GMT-14", .constant 50400)]

/-- The zones whose rules are part of the excerpt. -/
def ruled : List (String × Rules) :=
  [("America/New_York", .newYork), ("US/Eastern", .newYork),
    ("America/Los_Angeles", .losAngeles), ("America/Sao_Paulo", .saoPaulo),
    ("America/Nuuk", .nuuk), ("America/Godthab", .nuuk), ("Europe/London", .london),
    ("Europe/Dublin", .dublin), ("Europe/Berlin", .berlin), ("Europe/Paris", .paris),
    ("Asia/Tokyo", .tokyo), ("Asia/Kolkata", .kolkata), ("Asia/Calcutta", .kolkata),
    ("Asia/Kathmandu", .kathmandu), ("Australia/Sydney", .sydney),
    ("Australia/Lord_Howe", .lordHowe), ("Pacific/Apia", .apia),
    ("Pacific/Kiritimati", .kiritimati), ("Antarctica/Troll", .troll),
    ("Africa/Abidjan", .abidjan)] ++ hourly ++ universal

end Zone

/-- The excerpt as a database. Of the names whose rules are not listed it has no more than the name;
a constant offset takes the place of their rules. -/
instance ZoneDatabase.excerpt : ZoneDatabase where
  isName := Zone.names.contains
  rules key := (Zone.ruled.lookup key).getD (.constant 0)

/-- What holds of all rules of the excerpt and of a constant offset holds of every zone there. -/
theorem Zone.rules_named_of_ruled {P : String → Rules → Prop} (key : String)
    (hruled : ∀ entry ∈ ruled, P entry.1 entry.2) (hconstant : P key (.constant 0)) :
    P key (named key).rules := by
  change P key ((ruled.lookup key).getD (.constant 0))
  cases hrules : ruled.lookup key with
  | none => exact hconstant
  | some found =>
    obtain ⟨earlier, later, hsplit, -⟩ := List.lookup_eq_some_iff.mp hrules
    exact hruled (key, found) (hsplit ▸ List.mem_append_cons_self)

end ContentLine
