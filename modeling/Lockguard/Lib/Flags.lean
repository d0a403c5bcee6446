import Mathlib.Algebra.Group.Nat.Defs
import Mathlib.Logic.Function.Basic
/-!
# Go's `flag` package, for boolean flags

A program defines some flags, all false, and parses its arguments with them: those that set a flag, up to
the first that is none. An argument that looks like a flag and is not one ends the program
(`flag.ExitOnError`). `parse_set` is what a flag that is found set goes back to.
-/
namespace Flags

abbrev Arg := List Char

def parseBool (s : Arg) : Option Bool :=
  if s ∈ ["1", "t", "T", "TRUE", "true", "True"].map String.toList then some true
  else if s ∈ ["0", "f", "F", "FALSE", "false", "False"].map String.toList then some false
  else none

/-- What one argument is to the parser. -/
inductive Kind where
  | plain
  | terminator
  | set (name : Arg) (value : Bool)
  | help
  | bad
deriving DecidableEq

section
variable (formal : List Arg)

/-- An argument of the form `name` or `name=value`. -/
def named (name : Arg) (value : Option Arg) : Kind :=
  if name ∈ formal then
    match value with
    | none => .set name true
    | some v => match parseBool v with
      | some b => .set name b
      | none => .bad
  else if name = "help".toList ∨ name = "h".toList then .help
  else .bad

/-- `FlagSet.parseOne`, on its argument. -/
def parseArg : Arg → Kind
  | '-' :: c :: s =>
    if c = '-' ∧ s = [] then .terminator
    else
      let name := if c = '-' then s else c :: s
      if name.head? = some '-' ∨ name.head? = some '=' then .bad
      else named formal (name.takeWhile (· ≠ '=')) ((name.dropWhile (· ≠ '=')).tail?)
  | _ => .plain

inductive Parsed where
  | ok (values : Arg → Bool) (rest : List Arg)
  | help
  | bad

/-- `FlagSet.Parse`. -/
def parse : List Arg → (Arg → Bool) → Parsed
  | [], values => .ok values []
  | s :: rest, values => match parseArg formal s with
    | .plain => .ok values (s :: rest)
    | .terminator => .ok values rest
    | .set name value => parse rest (Function.update values name value)
    | .help => .help
    | .bad => .bad

end

variable {formal : List Arg}

/-- **A flag that is set has been asked for.** -/
theorem parse_set {args : List Arg} {values values' : Arg → Bool} {rest : List Arg} {name : Arg}
    (h : parse formal args values = .ok values' rest) (hset : values' name = true) :
    values name = true ∨ ∃ s ∈ args, parseArg formal s = .set name true := by
  induction args generalizing values with
  | nil =>
    cases h
    exact Or.inl hset
  | cons s args ih =>
    rw [parse] at h
    cases hkind : parseArg formal s with
    | plain | terminator =>
      rw [hkind] at h
      cases h
      exact Or.inl hset
    | help | bad =>
      rw [hkind] at h
      cases h
    | set other value =>
      rw [hkind] at h
      rcases ih h with hvalue | ⟨s', hmem, hs'⟩
      · by_cases hname : name = other
        · subst hname
          rw [Function.update_self] at hvalue
          subst hvalue
          exact Or.inr ⟨s, List.mem_cons_self, hkind⟩
        · rw [Function.update_of_ne hname] at hvalue
          exact Or.inl hvalue
      · exact Or.inr ⟨s', List.mem_cons_of_mem _ hmem, hs'⟩

/-- An argument that is no flag of the program ends it, whatever comes after. -/
theorem parse_bad {s : Arg} (h : parseArg formal s = .bad) (rest : List Arg) (values : Arg → Bool) :
    parse formal (s :: rest) values = .bad := by
  rw [parse, h]

end Flags
