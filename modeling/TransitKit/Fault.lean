/-!
# Faults

The ways an operation of this library can fail. A fault has a kind, a text when the
library itself states the reason, and possibly the kind of an earlier fault it was
raised over (a build failure over the fault that stopped the build).

The kinds follow the failures that callers can tell apart: a value out of its domain, a
missing key, an index past the end, a value of the wrong shape, arithmetic out of range,
unreadable JSON, and the failures of files, networks, versions and configuration.
-/

namespace TransitKit

/-- The kinds of failure. -/
inductive FaultKind where
  /-- A value outside the domain of an operation. -/
  | badValue
  /-- A key that a mapping does not hold. -/
  | missingKey
  /-- A position past the end of a sequence. -/
  | outOfRange
  /-- A value of the wrong shape for an operation. -/
  | wrongShape
  /-- An attribute or method that an object does not have. -/
  | noSuchMember
  /-- A number or date outside what can be represented. -/
  | overflow
  /-- Text that is not JSON. -/
  | badJson
  /-- Text that is not an expression of the generated language. -/
  | badExpression
  /-- A file or directory that does not exist. -/
  | fileMissing
  /-- A directory where a file was expected. -/
  | isDirectory
  /-- A failure wrapped by a larger operation. -/
  | failed
  /-- A version string that is not a valid version. -/
  | badVersion
  /-- Text that is not TOML. -/
  | badToml
  /-- A document that breaks its schema. -/
  | schemaViolation
  /-- A module that cannot be loaded. -/
  | moduleMissing
  /-- A library that a feature needs and that cannot be loaded. -/
  | importFailed
  /-- A connection that could not be made (asynchronous-capable client). -/
  | connectFailed
  /-- A connection that could not be made (plain client). -/
  | connectionFailed
  /-- An HTTP answer whose status is an error (asynchronous-capable client). -/
  | statusFailed
  /-- An HTTP answer whose status is an error (plain client). -/
  | httpFailed
  /-- A command that exited with a non-zero status. -/
  | commandFailed
  /-- A URL that cannot be sent. -/
  | badUrl
  /-- A URL without a scheme. -/
  | missingScheme
  /-- A file or directory that exists where a new one was to be made. -/
  | fileExists
deriving Repr, BEq, DecidableEq, Inhabited

/-- A failure: its kind, the library's own text when it states one, and the kind of
the fault it was raised over. -/
structure Fault where
  kind : FaultKind
  message : Option String := none
  cause : Option FaultKind := none
deriving Repr, Inhabited

namespace Fault

/-- A failure with no text of its own. -/
def plain (k : FaultKind) : Fault := ⟨k, none, none⟩

/-- A failure with the library's text. -/
def withText (k : FaultKind) (msg : String) : Fault := ⟨k, some msg, none⟩

/-- Wraps a fault in a larger failure whose text builds on the inner one: the outer
text exists only when the inner fault had a text. -/
def wrap (k : FaultKind) (pre : String) (inner : Fault) : Fault :=
  ⟨k, inner.message.map (pre ++ ·), some inner.kind⟩

end Fault

/-- Results that may fail with a fault. -/
abbrev Outcome (α : Type) := Except Fault α

/-- A failure as a program prints it: its kind and its text. Such failures come from the
runtime or a library, so they are reported by their kind alone. -/
structure Failure where
  kind : FaultKind
  text : String
deriving Repr, Inhabited

/-- The fault reported for a failure: its kind, without a text. -/
def Failure.toFault (f : Failure) : Fault := .plain f.kind

end TransitKit
