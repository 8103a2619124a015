import CoverageNote.Text.Basic

/-!
# Failures

A failure is reported as a chain of messages : what was being done, and behind it the causes, down to
the first one. On one line the messages stand with a colon between them.
-/

namespace CoverageNote

/-- A failure with its causes, from the outermost inwards. -/
structure Failure where
  message : Text
  causes : List Text
deriving Repr, DecidableEq

namespace Failure

/-- A failure without a further cause. -/
def plain (message : Text) : Failure :=
  ⟨message, []⟩

/-- The failure seen from what was being done. -/
def within (failure : Failure) (message : Text) : Failure :=
  ⟨message, failure.message :: failure.causes⟩

/-- All messages, the outermost first. -/
def chain (failure : Failure) : List Text :=
  failure.message :: failure.causes

/-- The messages on one line. -/
def oneLine (failure : Failure) : Text :=
  Text.joined ": ".toList failure.chain

end Failure

end CoverageNote
