/-!
# The journal

What happens on the card can be told as a journal: entries of one line, each with a severity, in
the order in which they arise. The components themselves keep no journal. Beside each of them a
`Journal` module tells, from the state before an operation and its arguments, which entries that
operation gives rise to, so that telling it can never change what happens.
-/

namespace WlanCard

/-- How much an entry matters, from the most severe on. -/
inductive Severity where
  | warn
  | info
  | debug
  | trace
deriving DecidableEq, Repr

/-- The place of a severity in their order; a smaller place is more severe. -/
def Severity.rank : Severity → Nat
  | .warn => 0
  | .info => 1
  | .debug => 2
  | .trace => 3

/-- The label that stands before an entry's text. -/
def Severity.label : Severity → String
  | .warn => "WARN"
  | .info => "INFO"
  | .debug => "DEBUG"
  | .trace => "TRACE"

/-- One line of the journal. -/
structure Entry where
  severity : Severity
  text : String
deriving DecidableEq, Repr

/-- Entries in the order in which they arose. -/
abbrev Journal := List Entry

/-- The entries at least as severe as `least`, in order. -/
def Journal.filterTo (least : Severity) (journal : Journal) : Journal :=
  journal.filter fun entry => entry.severity.rank ≤ least.rank

end WlanCard
