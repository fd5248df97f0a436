import CardCatalog.Json
import CardCatalog.Invocation
import CardCatalog.Settings
import CardCatalog.Settings.Location

/-!
# Plans

What a command does is planned before it is done: a plan says what to print and, for a change of the
settings, which file to write first. `Plan.steps` are the single steps of a plan in their order.
`Manner` is how a command prints and merges, as the command line, the environment and the user's
preferences have it.
-/

namespace CardCatalog

/-- What a command writes to its two outputs. -/
structure Report where
  out : Text
  err : Text
  deriving DecidableEq, Repr

namespace Report

/-- Nothing written yet. -/
def nothing : Report := ⟨[], []⟩

instance : Append Report := ⟨fun first second =>
  ⟨first.out ++ second.out, first.err ++ second.err⟩⟩

end Report

/-- What a command is going to do. -/
inductive Plan where
  | print (report : Report)
  /-- The file is written first. -/
  | save (path content : Text) (report : Report)
  deriving DecidableEq, Repr

namespace Plan

/-- One thing that is done for a command. -/
inductive Step where
  /-- The file is written, after the folders on the way to it. -/
  | save (path content : Text)
  | tell (report : Report)
  deriving DecidableEq, Repr

/-- The steps of a plan, one after the other. -/
def steps : Plan → List Step
  | print report => [.tell report]
  | save path content report => [.save path content, .tell report]

end Plan

/-- How a command prints and merges. -/
structure Manner where
  json : Bool
  colors : Bool
  quiet : Bool
  verbose : Bool
  bounds : BoundPolicy
  deriving DecidableEq, Repr

namespace Manner

/-- The manner for which the command line and the environment ask. -/
def ofFlags (env : Environment) (flags : Flags) : Manner where
  json := flags.json
  colors := !flags.noColor && !env.noColor
  quiet := flags.quiet
  verbose := flags.verbose
  bounds := .last

/-- The manner with the user's preferences. They turn JSON on and colors off, but take nothing back
that was asked for. -/
def withSettings (manner : Manner) (settings : Settings) : Except Failure Manner := do
  let bounds ← match settings.bounds with
    | some name => Settings.readPolicy name
    | none => pure manner.bounds
  return { manner with
    json := manner.json || settings.json == some true
    colors := manner.colors && settings.color != some false
    bounds := bounds }

/-- JSON with a line feed, or else a table, unless nothing but failures is to be seen. -/
def answer (manner : Manner) (json : Json) (table : Text) : Text :=
  if manner.json then json.pretty ++ ['\n'] else if manner.quiet then [] else table

/-- Lines for those who want to know more. -/
def notes (manner : Manner) (lines : List Text) : Text :=
  if manner.verbose then Text.ofLines lines else []

end Manner

end CardCatalog
