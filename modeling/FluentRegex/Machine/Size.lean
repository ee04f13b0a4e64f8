import FluentRegex.Machine.Program

/-!
# The size of programs

A pattern is held against a limit on the bytes that its program takes up (`size_limit`). How many
these are is a matter of how an engine lays out its programs, on which nothing here depends. So the
size is a `Sizing`, any measure of programs at all, and every statement about patterns that are run
holds under each of them. One is chosen only where a pattern is really run.
-/

namespace FluentRegex

/-- A measure of programs. It comes with a way to measure the program of an expression without
building it, because a short pattern can ask for a program of any length. -/
class Sizing where
  /-- The bytes that a program takes up. -/
  bytes : Array Instr → Nat
  /-- The bytes that the program of an expression takes up. -/
  bytesOf : Expr → Nat
  bytesOf_eq (e : Expr) : bytesOf e = bytes e.program

end FluentRegex
