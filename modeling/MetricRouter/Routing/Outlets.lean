import MetricRouter.Routing.Destination
import MetricRouter.Routing.Inbox
import MetricRouter.Time.Rfc3339

/-!
# Outlets

What destinations do with the samples that they are offered: an outlet keeps them in an inbox or writes
them to the log.
-/

namespace MetricRouter

/-- What a destination does with samples. -/
inductive Outlet where
  | inbox (i : Inbox)
  | log

/-- All outlets by the serial numbers of their destinations, and the lines written to the log. -/
structure Outlets where
  /-- How many destinations were created. -/
  created : Nat
  table : Table Nat Outlet
  /-- The lines of the log with the names of the destinations that wrote them, oldest first. -/
  lines : List (String × String)

namespace Outlets

/-- No outlet yet. -/
def empty : Outlets := { created := 0, table := .empty, lines := [] }

instance : Inhabited Outlets := ⟨empty⟩

/-- A new destination with its outlet. -/
def create (os : Outlets) (name : String) (outlet : Outlet) : Destination × Outlets :=
  (⟨os.created, name⟩,
    { os with created := os.created + 1, table := os.table.insert os.created outlet })

/-- The line that the log has for a sample. -/
def line (m : Metric) : String :=
  Time.format m.time.toInt ++ " " ++ m.fqn ++ " (" ++ m.type.name ++ ") = " ++ m.value.display

/-- Offers a sample to the outlet of a destination. -/
def receive : Receive Outlets := fun d m os =>
  match os.table.get? d.serial with
  | none => (.refused, os)
  | some .log => (.accepted, { os with lines := os.lines ++ [(d.name, line m)] })
  | some (.inbox i) =>
    let (taken, i) := i.offer m
    (if taken then .accepted else .refused, { os with table := os.table.insert d.serial (.inbox i) })

/-- The inbox of a destination. -/
def inbox? (os : Outlets) (serial : Nat) : Option Inbox :=
  match os.table.get? serial with
  | some (.inbox i) => some i
  | _ => none

/-- Takes up to `n` samples out of the inbox of a destination. -/
def takeOut (os : Outlets) (serial n : Nat) : List Metric × Outlets :=
  match os.inbox? serial with
  | none => ([], os)
  | some i =>
    let (ms, i) := i.takeOut n
    (ms, { os with table := os.table.insert serial (.inbox i) })

/-- Gives up the inbox of a destination. -/
def close (os : Outlets) (serial : Nat) : Outlets :=
  match os.inbox? serial with
  | none => os
  | some i => { os with table := os.table.insert serial (.inbox i.close) }

end Outlets

end MetricRouter
