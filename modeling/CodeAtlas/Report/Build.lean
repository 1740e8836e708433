import CodeAtlas.Report.Answer
import CodeAtlas.Sketch.Bench

/-!
# Reports of the build

How plans, analyses, events and progress are written as JSON.
-/

namespace CodeAtlas

open Json (ofFields ofList ofOption text nat)

/-- The report of a plan. -/
def Plan.report (p : Plan) : Json :=
  let c := p.invocation.command
  ofFields
    [("unit", p.unit.report), ("cwd", c.cwd.toJson), ("program", c.program.toJson),
     ("args", ofList text c.args), ("env", ofFields (c.env.entries.map fun e => (e.1, text e.2))),
     ("inputs", ofList Path.toJson p.invocation.inputs),
     ("outputs", ofList Path.toJson p.invocation.outputs),
     ("input_fingerprint", text p.inputFingerprint.text),
     ("deps_fingerprint", text p.depsFingerprint.text), ("shape", text p.shape.text)]

/-- The written name of a source. -/
def AnalysisSource.name : AnalysisSource → String
  | .inProcess => "InProcess"
  | .outOfProcess => "OutOfProcess"
  | .cache => "Cache"

/-- The report of an analysis beside the plan it was made by. -/
def Analysis.report (u : CompilationUnit) (p : Plan) (a : Analysis) : Json :=
  ofFields
    [("unit", a.unit.report), ("source", text a.source.name),
     ("read_files", ofList Path.toJson a.readFiles), ("snapshot", text a.snapshot.toText),
     ("diagnostics", nat a.snapshot.diagnostics.length), ("compile_errors", nat a.compileErrors),
     ("compile_error", ofOption BuildFault.report a.compileFault?),
     ("undeclared", ofList Path.toJson (a.undeclaredReads u p)),
     ("check", ((a.staleness? u p).map BuildFault.report).getD (text "ok"))]

/-- The report of an event. -/
def BuildEvent.report : BuildEvent → Json
  | .started n p us => .arr [text "started", nat n, text p.name, unitsReport us]
  | .indexed n u x =>
    .arr [text "indexed", nat n, u.report, x.stats.report, text x.source.name,
      nat x.compileErrors]
  | .failed n u f => .arr [text "failed", nat n, u.report, f.report]
  | .diagnostics u ds => .arr [text "diagnostics", u.report, ofList Diagnostic.report ds]
  | .finished s =>
    .arr [text "finished", nat s.build, text s.priority.name, ofFields
      [("indexed", unitsReport s.indexed), ("failed", unitsReport s.failed),
       ("skipped", unitsReport s.skipped), ("clean", .bool s.isClean)]]
  | .configurationInvalid r => .arr [text "configuration_invalid", text r]
  | .entered p => .arr [text "state", text p.name]

/-- The report of progress. -/
def ProgressEvent.toReport : ProgressEvent → Json
  | .began id t => .arr [text "begin", nat id, text t]
  | .report id m p => .arr [text "report", nat id, textJson? m, ofOption nat p]
  | .ended id m => .arr [text "end", nat id, textJson? m]

/-- The report of what a queue is doing. -/
def Queue.status {τ : Type} (q : Queue τ) : Json :=
  ofFields
    [("state", text q.control.phase.name), ("halted", textJson? q.control.halted),
     ("dirty", unitsReport q.dirty.pendingUnits.toList), ("builds", nat q.control.builds)]

/-- The report of what the bench was asked to do. -/
def Sketch.BenchRun.report : Sketch.BenchRun → Json
  | .discovery p => .arr [text "discover", p.toJson]
  | .analysis u => .arr [text "toolchain", u.report]
  | .compilation u => .arr [text "process", u.report]
  | .scripted c => .arr [text "process", text c.display]
  | .generation c => .arr [text "codegen", text c.display]

/-- The report of a configuration; large numbers are written as texts. -/
def Config.report (c : Config) : Json :=
  let b := c.build
  let large (n : Nat) : Json := text (toString n)
  ofFields
    [("workers", text ((b.workers.map toString).getD "default")),
     ("debounce_ms", ofOption large b.debounceMs), ("debounce", ofOption large b.debounceMs),
     ("crash_backoff_base_ms", large b.backoffBaseMs),
     ("crash_backoff_cap_ms", large b.backoffCapMs),
     ("invocation_timeout_ms", large b.invocationTimeoutMs),
     ("fallback_timeout_ms", large b.fallbackTimeoutMs), ("rustc", text b.compiler),
     ("edition", text b.edition), ("target", textJson? b.target),
     ("extra_args", ofList text b.extraArgs), ("cache_enabled", .bool c.cache.enabled),
     ("cache_dir", ofOption Path.toJson c.cache.dir), ("level", text c.logging.level),
     ("json", .bool c.logging.json)]

/-- The report of the outcome of a command. -/
def CommandOutput.report (o : CommandOutput) : Json :=
  ofFields
    [("status", text o.status.shown), ("success", .bool o.status.success),
     ("code", ofOption Json.int o.status.code?), ("signal", ofOption Json.int o.status.signal?),
     ("stdout", text o.stdout), ("stderr", text o.stderr), ("combined", text o.combined),
     ("truncated", .bool o.truncated), ("timed_out", .bool o.timedOut),
     ("cancelled", .bool o.cancelled)]

end CodeAtlas
