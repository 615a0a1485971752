import Mutant.Build.Tool
import Mutant.Diagnostics.Explanation
import Mutant.MutateFile
import Mutant.Report
import Mutant.Repository
import Mutant.Run.Config

/-!
A run: build the project, mutate the first file that offers a candidate, build again, and report. A
failing baseline ends the run before anything is mutated; a failing mutated build is a verdict and
no error. Unless the mutation is to be kept, everything is put back at the end, whatever happened.
-/

namespace Mutant

inductive RunError where
  | build (reason : BuildError)
  | file (reason : FileError)
  | diagnostics (reason : DiagnosticsError)
  | repository (reason : Repository.Failure)
deriving DecidableEq, Repr

def RunError.message : RunError → String
  | build reason => reason.message
  | file reason => reason.message
  | diagnostics reason => reason.message
  | repository reason => reason.message

inductive StartError where
  | disk (trouble : Trouble) (path : Path)
  | operation (name : String)
deriving DecidableEq, Repr

structure Session where
  repo : Path
  config : RunConfig
  operator : Operator
  repository : Repository
deriving DecidableEq, Repr

namespace Session

def start (disk : Disk) (repo : Path) (config : RunConfig) : Except StartError Session :=
  match Repository.openAt disk repo with
  | .error (trouble, path) => .error (.disk trouble path)
  | .ok repository =>
      match Operator.ofName? config.operation with
      | none => .error (.operation config.operation)
      | some operator => .ok ⟨repo, config, operator, repository⟩

def settings (session : Session) : Settings :=
  { resolution := session.config.symbolResolution }

def policy (session : Session) : Policy :=
  ⟨session.config.pickIndex, session.config.randomSeed⟩

/-- A file as the report names it: relative to the repository if it lies inside. A path that no call
takes stays as it is. -/
def relative (session : Session) (world : World) (file : Path) : String :=
  if file.hasNull then file.text
  else
    match (world.resolve file).relativeTo? (world.resolve session.repo) with
    | some path => path.text
    | none => file.text

def build (session : Session) (world : World) : Except RunError BuildOutcome × World :=
  match world.build {} session.repo session.config.skipTests with
  | (.ok outcome, world) => (.ok outcome, world)
  | (.error error, world) => (.error (.build error), world)

def report (session : Session) (world : World) (verdict : Verdict) (target : Option Path)
    (mutation : Option Mutation) (baseline : BuildOutcome) (mutated : Option BuildOutcome)
    (diagnostics : Option String) : Report :=
  let summary := fun outcome => BuildSummary.ofOutcome outcome session.config.diagnosticsLines
  { repo := (world.resolve session.repo).text
    operation := session.operator.name
    targetFile := (target.map (session.relative world)).getD ""
    mutation
    baselineBuild := some (summary baseline)
    mutatedBuild := mutated.map summary
    diagnostics
    verdict
    buildabilityPreserved := verdict.preservesBuild }

/-- The state that a run passes on: what is to be restored, and the world. -/
abbrev State := Repository × World

def judge (session : Session) (state : State) (target : Path) (mutation : Mutation)
    (baseline : BuildOutcome) : Except RunError Report × State :=
  let (repository, world) := state
  match session.build world with
  | (.error error, world) => (.error error, repository, world)
  | (.ok outcome, world) =>
      if outcome.success then
        (.ok (session.report world .ok (some target) (some mutation) baseline (some outcome) none),
          repository, world)
      else
        match Explanation.text world.disk outcome mutation with
        | .error reason => (.error (.diagnostics reason), repository, world)
        | .ok diagnostics =>
            (.ok (session.report world .mutatedBuildFailed (some target) (some mutation) baseline
              (some outcome) (some diagnostics)), repository, world)

/-- Tries the files one after another; the first one that can be mutated is judged. -/
def tryFiles (session : Session) (baseline : BuildOutcome) (first : Option Path) :
    List Path → State → Except RunError Report × State
  | [], (repository, world) =>
      let name := (first.map Path.text).getD ""
      let unchanged := Mutation.unchanged name (some session.operator.name)
      (.ok (session.report world .noMutation first (some unchanged) baseline none none),
        repository, world)
  | target :: rest, (repository, world) =>
      match repository.track world.disk target with
      | .error (trouble, path) => (.error (.file (.disk trouble path)), repository, world)
      | .ok repository =>
          match world.mutateFile session.operator session.settings session.policy target with
          | (.error error, world) => (.error (.file error), repository, world)
          | (.ok mutation, world) =>
              if mutation.changed then
                session.judge (repository, world) target mutation baseline
              else session.tryFiles baseline first rest (repository, world)

def attempt (session : Session) (files : List Path) (state : State) :
    Except RunError Report × State :=
  let (repository, world) := state
  match session.build world with
  | (.error error, world) => (.error error, repository, world)
  | (.ok baseline, world) =>
      if baseline.success then session.tryFiles baseline files.head? files (repository, world)
      else
        (.ok (session.report world .baselineFailed files.head? none baseline none none),
          repository, world)

/-- Runs over the first files of a list, as many as the limit allows. What cannot be set aside at the
beginning is not put back at the end. -/
def run (session : Session) (files : List Path) (world : World) :
    Except RunError Report × World :=
  match session.repository.snapshot world with
  | (_, world, some failure) => (.error (.repository failure), world)
  | (repository, world, none) =>
      let (result, repository, world) :=
        session.attempt (files.take session.config.limit.toNat) (repository, world)
      if session.config.keepMutation then (result, world)
      else
        match repository.restore world with
        | (_, world, none) => (result, world)
        | (_, world, some failure) => (.error (.repository failure), world)

end Session

end Mutant
