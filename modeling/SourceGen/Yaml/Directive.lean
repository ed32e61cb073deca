import SourceGen.Yaml.Tag

/-!
# YAML directives

A line that begins with a percent sign says something about the document below it: the version it is
written in, or what a handle is short for.
-/

namespace SourceGen.Yaml

inductive Directive where
  | version (major minor : Nat)
  | handle (name : String) (front : Tag)
deriving DecidableEq, Repr

/-- The most digits of a version's number. -/
def versionDigits : Nat := 9

def readVersionNumber (begun : Place) (s : Source) : Except Failure (Nat × Source) :=
  let digits := s.rest.takeWhile Char.isDigit
  if versionDigits < digits.length then
    (s.skip versionDigits).fail .longNumber (some (.versionDirective, begun))
  else if digits.isEmpty then s.fail .expectedNumber (some (.versionDirective, begun))
  else .ok (digits.foldl (fun n d ↦ n * 10 + (d.toNat - 48)) 0, s.skip digits.length)

/-- What follows `%YAML`: two numbers with a point between them. -/
def readVersion (begun : Place) (s : Source) : Except Failure (Directive × Source) := do
  let (major, s) ← readVersionNumber begun (s.skipWhile isGap)
  if !s.looksAt '.' then s.fail .expectedPoint (some (.versionDirective, begun))
  else
    let (minor, s) ← readVersionNumber begun (s.skip 1)
    .ok (.version major minor, s)

/-- What follows `%TAG`: a handle and the front part it is short for. -/
def readHandleFront (begun : Place) (s : Source) : Except Failure (Directive × Source) := do
  let (handle, s) ← readHandle true begun (s.skipWhile isGap)
  if !s.peek.any isGap then s.fail .expectedBlank (some (.tagDirective, begun))
  else
    let (front, s) ← readTagName true true begun [] (s.skipWhile isGap)
    if !endsRun s.peek then s.fail .expectedBlankOrBreak (some (.tagDirective, begun))
    else .ok (.handle (String.ofList handle) front, s)

/-- A directive from its percent sign to the end of its line. -/
def readDirective (s : Source) : Except Failure (Directive × Source) := do
  let begun := s.place
  let (name, s) := (s.skip 1).span isNameChar
  if name.isEmpty then s.fail .expectedDirectiveName (some (.directive, begun))
  else if !endsRun s.peek then s.fail .directiveNameGoesOn (some (.directive, begun))
  else
    let (directive, s) ←
      if name == "YAML".toList then readVersion begun s
      else if name == "TAG".toList then readHandleFront begun s
      else s.fail .unknownDirective (some (.directive, begun))
    let s := s.skipWhile isGap
    let s := if s.looksAt '#' then s.skipWhile fun c ↦ !isBreak c else s
    match s.readBreak with
    | some (_, next) => .ok (directive, next)
    | none =>
      if s.rest.isEmpty then .ok (directive, s)
      else s.fail .expectedLineBreak (some (.directive, begun))

end SourceGen.Yaml
