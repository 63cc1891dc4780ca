import ProtocolBench.Bench.RespbReplay
import ProtocolBench.Resp.Synthetic

/-!
`main.c` and `run_benchmark` of `benchmark.c`. `main` starts from a configuration that benchmarks
RESP alone on a MIXED workload for 10 iterations and runs the `switch` of its `getopt` loop over
the options; `run_benchmark` then loads the workload files, or generates one synthetic workload
of 10 MiB and holds it as both workloads, runs the benchmarks the configuration selects, and
prints the comparison when both protocols are selected and the two workload pointers differ.

So with a synthetic workload the RESPB benchmark never runs, and in FILE mode with both protocols
selected and one file given the comparison shows zero metrics for the benchmark that did not run.

`getopt` and `atoi` are the C library's: the model takes the options `getopt` returns and the
function `atoi` computes. The file system is the contents of each file name, `none` where `fopen`
fails. Only the counters of the metrics are modelled, and of the printed text only the reports
of the metrics and of the comparison.
-/

namespace ProtocolBench.Bench
open ProtocolBench.Respb (RespbCommand)
open ProtocolBench.Resp (WorkloadType Metrics benchmarkRespParsing workloadGenerateSynthetic
  multibulk WellSized capturesLast)

/-- `benchmark_config_t`, with the two counters of each protocol's metrics. -/
structure BenchmarkConfig where
  iterations : Int
  sampleLatency : Bool
  benchResp : Bool
  benchRespb : Bool
  workloadType : WorkloadType
  respWorkloadFile : Option String
  respbWorkloadFile : Option String
  respMetrics : Metrics
  respbMetrics : Metrics
  deriving DecidableEq, Repr

/-- The initializer of `config` in `main`; the metrics it does not name are zero. -/
def initialConfig : BenchmarkConfig where
  iterations := 10
  sampleLatency := false
  benchResp := true
  benchRespb := false
  workloadType := .mixed
  respWorkloadFile := none
  respbWorkloadFile := none
  respMetrics := ⟨0, 0⟩
  respbMetrics := ⟨0, 0⟩

/-- What `getopt(argc, argv, "r:b:i:lw:p:h")` returns, with `optarg` where the option takes one;
`unknown` is `'?'`. -/
inductive Opt where
  | r (arg : String)
  | b (arg : String)
  | i (arg : String)
  | l
  | w (arg : String)
  | p (arg : String)
  | h
  | unknown
  deriving DecidableEq, Repr

/-- Where `main` returns inside its option loop. -/
inductive OptExit where
  | invalidIterations (arg : String)
  | invalidWorkloadType (arg : String)
  | invalidProtocol (arg : String)
  | help
  | usage
  deriving DecidableEq, Repr

/-- What `main` returns there: 0 after `-h`, 1 otherwise. -/
def OptExit.code : OptExit → Int
  | .help => 0
  | _ => 1

/-- One arm of `switch (opt)` in `main`. -/
def applyOpt (atoi : String → Int) (config : BenchmarkConfig) : Opt → Except OptExit BenchmarkConfig
  | .r arg => .ok { config with respWorkloadFile := some arg, workloadType := .file }
  | .b arg => .ok { config with respbWorkloadFile := some arg, workloadType := .file }
  | .i arg =>
    if atoi arg ≤ 0 then .error (.invalidIterations arg)
    else .ok { config with iterations := atoi arg }
  | .l => .ok { config with sampleLatency := true }
  | .w arg =>
    if arg = "small" then .ok { config with workloadType := .smallKeys }
    else if arg = "medium" then .ok { config with workloadType := .mediumKeys }
    else if arg = "large" then .ok { config with workloadType := .largeValues }
    else if arg = "mixed" then .ok { config with workloadType := .mixed }
    else .error (.invalidWorkloadType arg)
  | .p arg =>
    if arg = "resp" then .ok { config with benchResp := true, benchRespb := false }
    else if arg = "respb" then .ok { config with benchResp := false, benchRespb := true }
    else if arg = "both" then .ok { config with benchResp := true, benchRespb := true }
    else .error (.invalidProtocol arg)
  | .h => .error .help
  | .unknown => .error .usage

/-- The loop `while ((opt = getopt(argc, argv, …)) != -1)` over the options `getopt` returns. -/
def parseOptions (atoi : String → Int) : BenchmarkConfig → List Opt → Except OptExit BenchmarkConfig
  | config, [] => .ok config
  | config, o :: os =>
    match applyOpt atoi config o with
    | .ok config => parseOptions atoi config os
    | .error e => .error e

/-- `workload_load(filename)` over the contents of the files, `none` where `fopen` fails: `NULL`
for a file it cannot open or whose size is not in `1 ..= 1 GiB`, otherwise the workload at
`current_pos = 0`. Allocation and read failures are not modelled. -/
def workloadLoad (fs : String → Option (List UInt8)) (filename : String) : Option Workload :=
  match fs filename with
  | some data =>
    if data.length ≤ 0 ∨ 1024 * 1024 * 1024 < data.length then none else some ⟨data, 0⟩
  | none => none

/-- `resp_workload` and `respb_workload` of `run_benchmark`, and whether the two pointers are
equal: two `NULL`s are, two loaded workloads are distinct allocations, and the synthetic
workload is one pointer held as both. -/
structure Workloads where
  resp : Option Workload
  respb : Option Workload
  same : Bool

/-- Where `run_benchmark` returns 0, each after its line to standard error. -/
inductive RunFailure where
  /-- "Failed to load RESP workload" -/
  | loadResp
  /-- "Failed to load RESPB workload" -/
  | loadRespb
  /-- "Failed to generate RESP workload" -/
  | generate
  /-- "RESP benchmark failed" -/
  | respBench
  /-- "RESPB benchmark failed" -/
  | respbBench
  deriving DecidableEq, Repr

/-- `if (config->…_workload_file)`: load the file when one is named, `NULL` otherwise. -/
def loadFile (fs : String → Option (List UInt8)) (failure : RunFailure) :
    Option String → Except RunFailure (Option Workload)
  | none => .ok none
  | some name =>
    match workloadLoad fs name with
    | some wl => .ok (some wl)
    | none => .error failure

/-- The first part of `run_benchmark`: in FILE mode load the files that are named, otherwise
generate a synthetic workload of `10 * 1024 * 1024` bytes and use it for both protocols. -/
def loadWorkloads (fs : String → Option (List UInt8)) (config : BenchmarkConfig) :
    Except RunFailure Workloads :=
  if config.workloadType = .file then
    match loadFile fs .loadResp config.respWorkloadFile with
    | .error f => .error f
    | .ok resp =>
      match loadFile fs .loadRespb config.respbWorkloadFile with
      | .error f => .error f
      | .ok respb => .ok ⟨resp, respb, resp.isNone && respb.isNone⟩
  else
    match workloadGenerateSynthetic (10 * 1024 * 1024) config.workloadType with
    | some data => .ok ⟨some ⟨data, 0⟩, some ⟨data, 0⟩, true⟩
    | none => .error .generate

/-- What `run_benchmark` prints of its results: `benchmark_print_metrics(&metrics, name)` and
`benchmark_print_comparison(&resp_metrics, &respb_metrics)`. -/
inductive Report where
  | metrics (m : Metrics) (name : String)
  | comparison (resp respb : Metrics)
  deriving DecidableEq, Repr

/-- Where `run_benchmark` ends before its `return 1`: `return 0` at a failure, with the reports
printed before it, or the model stops where a driver does. -/
inductive RunStop where
  | failed (f : RunFailure) (out : List Report)
  | stop
  | outOfFuel

/-- `if (resp_workload && config->bench_resp)`: `benchmark_resp_parsing` with `fuel` turns per
iteration; a 0 fails the run, otherwise the metrics are printed and stored. -/
def respStage (fuel : Nat) (w : Workloads) (config : BenchmarkConfig) (out : List Report) :
    Except RunStop (BenchmarkConfig × List Report) :=
  match w.resp with
  | some wl =>
    if config.benchResp then
      match benchmarkRespParsing fuel wl.data config.iterations.toNat with
      | .ret r m =>
        if r = 0 then .error (.failed .respBench out)
        else .ok ({ config with respMetrics := m }, out ++ [.metrics m "RESP"])
      | .stop _ => .error .stop
      | .outOfFuel => .error .outOfFuel
    else .ok (config, out)
  | none => .ok (config, out)

/-- `if (respb_workload && config->bench_respb && respb_workload != resp_workload)`:
`benchmark_respb_parsing` with `fuel` turns per iteration; a 0 fails the run, otherwise the
metrics are printed and stored. -/
def respbStage (junk : Nat → Nat → RespbCommand) (fuel : Nat) (w : Workloads)
    (config : BenchmarkConfig) (out : List Report) :
    Except RunStop (BenchmarkConfig × List Report) :=
  match w.respb with
  | some wl =>
    if config.benchRespb && !w.same then
      match benchmarkRespbParsing junk fuel wl config.iterations.toNat with
      | .ret r m =>
        if r = 0 then .error (.failed .respbBench out)
        else .ok ({ config with respbMetrics := m }, out ++ [.metrics m "RESPB"])
      | .stop => .error .stop
      | .outOfFuel => .error .outOfFuel
    else .ok (config, out)
  | none => .ok (config, out)

/-- `run_benchmark(config)`: the workloads, the two benchmarks, and the comparison when both
protocols are selected and the workload pointers differ; `.ok` is its `return 1`, with the
configuration and the reports. -/
def runBenchmark (fs : String → Option (List UInt8)) (junk : Nat → Nat → RespbCommand) (fuel : Nat)
    (config : BenchmarkConfig) : Except RunStop (BenchmarkConfig × List Report) :=
  match loadWorkloads fs config with
  | .error f => .error (.failed f [])
  | .ok w =>
    match respStage fuel w config [] with
    | .error e => .error e
    | .ok (config, out) =>
      match respbStage junk fuel w config out with
      | .error e => .error e
      | .ok (config, out) =>
        .ok (config, if config.benchResp && config.benchRespb && !w.same then
          out ++ [.comparison config.respMetrics config.respbMetrics] else out)

/-- What `main` returns, with the reports `run_benchmark` printed; or where the model stops. -/
inductive MainEnd where
  | exit (code : Int) (out : List Report)
  | stop
  | outOfFuel
  deriving DecidableEq, Repr

/-- `main(argc, argv)` on the options `getopt` returns. -/
def benchmarkMain (atoi : String → Int) (fs : String → Option (List UInt8))
    (junk : Nat → Nat → RespbCommand) (fuel : Nat) (opts : List Opt) : MainEnd :=
  match parseOptions atoi initialConfig opts with
  | .error e => .exit e.code []
  | .ok config =>
    match runBenchmark fs junk fuel config with
    | .ok (_, out) => .exit 0 out
    | .error (.failed _ out) => .exit 1 out
    | .error .stop => .stop
    | .error .outOfFuel => .outOfFuel

/-- What every configuration `main` hands to `run_benchmark` holds: at least one iteration, FILE
mode only with a file named, and the metrics the initializer leaves zero. -/
structure BenchmarkConfig.Valid (c : BenchmarkConfig) : Prop where
  iterations_pos : 0 < c.iterations
  file_named : c.workloadType = .file → c.respWorkloadFile.isSome ∨ c.respbWorkloadFile.isSome
  metrics_zero : c.respMetrics = ⟨0, 0⟩ ∧ c.respbMetrics = ⟨0, 0⟩

section Options

variable {atoi : String → Int}

theorem initialConfig_valid : initialConfig.Valid :=
  ⟨by decide, (fun h => nomatch h), rfl, rfl⟩

/-- Every arm of the `switch` that goes on keeps a configuration valid: `-i` only stores a
positive count, `-r` and `-b` name the file they select, and `-w` leaves FILE mode. -/
theorem applyOpt_valid {c c' : BenchmarkConfig} (hc : c.Valid) :
    ∀ {o : Opt}, applyOpt atoi c o = .ok c' → c'.Valid
  | .r _, hstep => by cases hstep; exact ⟨hc.1, fun _ => .inl rfl, hc.3⟩
  | .b _, hstep => by cases hstep; exact ⟨hc.1, fun _ => .inr rfl, hc.3⟩
  | .i arg, hstep => by
    simp only [applyOpt] at hstep
    split_ifs at hstep with hpos
    cases hstep
    exact ⟨by simpa using hpos, hc.2, hc.3⟩
  | .l, hstep => by cases hstep; exact ⟨hc.1, hc.2, hc.3⟩
  | .w _, hstep => by
    simp only [applyOpt] at hstep
    split_ifs at hstep <;> cases hstep <;> exact ⟨hc.1, (fun h => nomatch h), hc.3⟩
  | .p _, hstep => by
    simp only [applyOpt] at hstep
    split_ifs at hstep <;> cases hstep <;> exact ⟨hc.1, hc.2, hc.3⟩
  | .h, hstep => nomatch hstep
  | .unknown, hstep => nomatch hstep

/-- The option loop keeps a configuration valid. -/
theorem parseOptions_valid : ∀ {c c' : BenchmarkConfig} (os : List Opt), c.Valid →
    parseOptions atoi c os = .ok c' → c'.Valid
  | _, _, [], hc, h => by cases h; exact hc
  | c, _, o :: os, hc, h => by
    rw [parseOptions] at h
    split at h
    · exact parseOptions_valid os (applyOpt_valid hc (by assumption)) h
    · cases h

/-- Every configuration `main` hands to `run_benchmark`, whatever options `getopt` returns and
whatever `atoi` makes of `-i`, has at least one iteration, is in FILE mode only when `-r` or `-b`
named a file, and holds the zero metrics of the initializer. -/
theorem parseOptions_initialConfigValid (atoi : String → Int) (opts : List Opt)
    {config : BenchmarkConfig} (h : parseOptions atoi initialConfig opts = .ok config) :
    config.Valid :=
  parseOptions_valid opts initialConfig_valid h

theorem parseOptions_initialConfigValid_fileIters :
    parseOptions (fun _ => 5) initialConfig [.r "resp.bin", .i "5", .l] =
      .ok { initialConfig with
        respWorkloadFile := some "resp.bin", workloadType := .file, iterations := 5,
        sampleLatency := true } ∧
    BenchmarkConfig.Valid { initialConfig with
      respWorkloadFile := some "resp.bin", workloadType := .file, iterations := 5,
      sampleLatency := true } :=
  ⟨rfl, parseOptions_initialConfigValid (fun _ => 5) [.r "resp.bin", .i "5", .l] rfl⟩

end Options

/-- Whether `run_benchmark` runs the RESP benchmark: RESP selected, with a workload for it (the
synthetic one, or a RESP file). -/
def BenchmarkConfig.runsResp (c : BenchmarkConfig) : Bool :=
  (c.workloadType != .file || c.respWorkloadFile.isSome) && c.benchResp

/-- Whether it runs the RESPB benchmark: RESPB selected, in FILE mode, with a RESPB file. -/
def BenchmarkConfig.runsRespb (c : BenchmarkConfig) : Bool :=
  (c.workloadType == .file && c.respbWorkloadFile.isSome) && c.benchRespb

/-- Whether it prints the comparison: both protocols selected, in FILE mode. -/
def BenchmarkConfig.compares (c : BenchmarkConfig) : Bool :=
  c.benchResp && c.benchRespb && c.workloadType == .file

/-- The reports of a run that returns 1, from the metrics `mr` and `mb` the two benchmarks
return: each benchmark that runs reports its metrics, and the comparison shows them, with the
initializer's zero metrics for a benchmark that did not run. -/
def BenchmarkConfig.reports (c : BenchmarkConfig) (mr mb : Metrics) : List Report :=
  (if c.runsResp then [.metrics mr "RESP"] else []) ++
    (if c.runsRespb then [.metrics mb "RESPB"] else []) ++
    (if c.compares then
      [.comparison (if c.runsResp then mr else ⟨0, 0⟩) (if c.runsRespb then mb else ⟨0, 0⟩)]
    else [])

section Stages

variable {fs : String → Option (List UInt8)} {junk : Nat → Nat → RespbCommand} {fuel : Nat}

theorem loadFile_isSome {f : RunFailure} :
    ∀ {n : Option String} {r : Option Workload}, loadFile fs f n = .ok r → r.isSome = n.isSome
  | none, _, h => by cases h; rfl
  | some _, _, h => by
    simp only [loadFile] at h
    split at h
    · cases h; rfl
    · cases h

/-- The workloads of a run that goes on: there is a RESP workload to run RESP on, a RESPB workload
distinct from the RESP one to run RESPB on, and two distinct pointers for the comparison, exactly
as the configuration says. -/
theorem loadWorkloads_ok {config : BenchmarkConfig} {w : Workloads} (hc : config.Valid)
    (h : loadWorkloads fs config = .ok w) :
    (w.resp.isSome && config.benchResp) = config.runsResp ∧
    (w.respb.isSome && !w.same && config.benchRespb) = config.runsRespb ∧
    (config.benchResp && config.benchRespb && !w.same) = config.compares := by
  unfold loadWorkloads at h
  split_ifs at h with hty
  · split at h
    · cases h
    rename_i resp hresp
    split at h
    · cases h
    rename_i respb hrespb
    cases h
    have h₁ := loadFile_isSome hresp
    have h₂ := loadFile_isSome hrespb
    have hnamed := hc.file_named hty
    cases resp <;> cases respb <;>
      simp_all [BenchmarkConfig.runsResp, BenchmarkConfig.runsRespb, BenchmarkConfig.compares]
  · split at h
    · cases h
      simp [BenchmarkConfig.runsResp, BenchmarkConfig.runsRespb, BenchmarkConfig.compares, hty]
    · cases h

/-- The RESP stage of a run that goes on: with a RESP workload and RESP selected it stored and
reported the metrics the benchmark returned, and otherwise it changed nothing. -/
theorem respStage_ok {w : Workloads} {config config' : BenchmarkConfig} {out out' : List Report}
    (h : respStage fuel w config out = .ok (config', out')) :
    ∃ m, config' = { config with
        respMetrics := if w.resp.isSome && config.benchResp then m else config.respMetrics } ∧
      out' = out ++ (if w.resp.isSome && config.benchResp then [.metrics m "RESP"] else []) := by
  unfold respStage at h
  split at h
  · rename_i hw
    split_ifs at h with hb
    · split at h
      next m _ =>
        split_ifs at h
        cases h
        exact ⟨m, by simp [hw, hb], by simp [hw, hb]⟩
      all_goals cases h
    · cases h
      have hskip : (w.resp.isSome && config.benchResp) = false := by simp [hb]
      exact ⟨⟨0, 0⟩, by rw [hskip]; rfl, by rw [hskip]; simp⟩
  · rename_i hw
    cases h
    exact ⟨⟨0, 0⟩, by simp [hw], by simp [hw]⟩

/-- The RESPB stage of a run that goes on: with a RESPB workload distinct from the RESP one and
RESPB selected it stored and reported the metrics the benchmark returned, and otherwise it
changed nothing. -/
theorem respbStage_ok {w : Workloads} {config config' : BenchmarkConfig} {out out' : List Report}
    (h : respbStage junk fuel w config out = .ok (config', out')) :
    ∃ m, config' = { config with
        respbMetrics := if w.respb.isSome && !w.same && config.benchRespb then m
          else config.respbMetrics } ∧
      out' = out ++ (if w.respb.isSome && !w.same && config.benchRespb then [.metrics m "RESPB"]
        else []) := by
  unfold respbStage at h
  split at h
  · rename_i hw
    split_ifs at h with hb
    · split at h
      next m _ =>
        split_ifs at h
        cases h
        simp only [Bool.and_eq_true] at hb
        exact ⟨m, by simp [hw, hb], by simp [hw, hb]⟩
      all_goals cases h
    · cases h
      have hskip : (w.respb.isSome && !w.same && config.benchRespb) = false := by
        rw [hw, Option.isSome_some, Bool.true_and, Bool.and_comm]
        simpa only [Bool.not_eq_true] using hb
      exact ⟨⟨0, 0⟩, by rw [hskip]; rfl, by rw [hskip]; simp⟩
  · rename_i hw
    cases h
    exact ⟨⟨0, 0⟩, by simp [hw], by simp [hw]⟩

theorem workloadLoad_of_size {name : String} {data : List UInt8} (hf : fs name = some data)
    (hsize : 0 < data.length ∧ data.length ≤ 1024 * 1024 * 1024) :
    workloadLoad fs name = some ⟨data, 0⟩ := by
  simp only [workloadLoad, hf]
  rw [if_neg (by omega)]

/-- Two files that load give two workloads and two distinct pointers. -/
theorem loadWorkloads_files {config : BenchmarkConfig} (hty : config.workloadType = .file)
    {r b : String} (hr : config.respWorkloadFile = some r) (hb : config.respbWorkloadFile = some b)
    {wr wb : Workload} (hlr : workloadLoad fs r = some wr) (hlb : workloadLoad fs b = some wb) :
    loadWorkloads fs config = .ok ⟨some wr, some wb, false⟩ := by
  simp only [loadWorkloads, hty, hr, hb, loadFile, hlr, hlb, if_true]
  rfl

/-- A synthetic run holds the generated workload as both workloads, one pointer. -/
theorem loadWorkloads_synthetic {config : BenchmarkConfig} (hty : config.workloadType ≠ .file)
    {data : List UInt8}
    (hgen : workloadGenerateSynthetic (10 * 1024 * 1024) config.workloadType = some data) :
    loadWorkloads fs config = .ok ⟨some ⟨data, 0⟩, some ⟨data, 0⟩, true⟩ := by
  rw [loadWorkloads, if_neg hty, hgen]

theorem respStage_ret {w : Workloads} {wl : Workload} (hw : w.resp = some wl)
    {config : BenchmarkConfig} (hsel : config.benchResp = true) {r : Int} {m : Metrics}
    (hrun : benchmarkRespParsing fuel wl.data config.iterations.toNat = .ret r m)
    (out : List Report) :
    respStage fuel w config out = if r = 0 then .error (.failed .respBench out)
      else .ok ({ config with respMetrics := m }, out ++ [.metrics m "RESP"]) := by
  simp only [respStage, hw, hsel, hrun, if_true]

theorem respStage_skip {w : Workloads} {config : BenchmarkConfig}
    (h : (w.resp.isSome && config.benchResp) = false) (out : List Report) :
    respStage fuel w config out = .ok (config, out) := by
  unfold respStage
  split
  · rename_i hw
    rw [hw, Option.isSome_some, Bool.true_and] at h
    rw [if_neg (by simp [h])]
  · rfl

theorem respbStage_ret {w : Workloads} {wl : Workload} (hw : w.respb = some wl)
    {config : BenchmarkConfig} (hsel : (config.benchRespb && !w.same) = true) {r : Int}
    {m : Metrics}
    (hrun : benchmarkRespbParsing junk fuel wl config.iterations.toNat = .ret r m)
    (out : List Report) :
    respbStage junk fuel w config out = if r = 0 then .error (.failed .respbBench out)
      else .ok ({ config with respbMetrics := m }, out ++ [.metrics m "RESPB"]) := by
  simp only [respbStage, hw, hsel, hrun, if_true]

/-- The RESPB stage does nothing when the two workloads are one pointer. -/
theorem respbStage_same {w : Workloads} (hs : w.same = true) (config : BenchmarkConfig)
    (out : List Report) : respbStage junk fuel w config out = .ok (config, out) := by
  unfold respbStage
  split
  · rw [if_neg (by simp [hs])]
  · rfl

end Stages

section Runs

variable {fs : String → Option (List UInt8)} {junk : Nat → Nat → RespbCommand} {fuel : Nat}

/-- A run that returns 1 loaded its workloads, went on through both stages, and printed the
comparison when both protocols are selected and the workload pointers differ. -/
theorem runBenchmark_ok {config config' : BenchmarkConfig} {out : List Report}
    (h : runBenchmark fs junk fuel config = .ok (config', out)) :
    ∃ w c₁ out₁ out₂, loadWorkloads fs config = .ok w ∧
      respStage fuel w config [] = .ok (c₁, out₁) ∧
      respbStage junk fuel w c₁ out₁ = .ok (config', out₂) ∧
      out = if config'.benchResp && config'.benchRespb && !w.same then
        out₂ ++ [.comparison config'.respMetrics config'.respbMetrics] else out₂ := by
  unfold runBenchmark at h
  split at h
  · cases h
  next w hload =>
    split at h
    · cases h
    next c₁ out₁ hresp =>
      split at h
      · cases h
      next c₂ out₂ hrespb =>
        cases h
        exact ⟨w, c₁, out₁, out₂, hload, hresp, hrespb, rfl⟩

/-- What `main` reports when `run_benchmark` returns 1: on every option list it accepts, whatever
the files hold and whatever the drivers count, the metrics of each benchmark that ran, the RESP
one first, and, exactly when both protocols are selected in FILE mode, the comparison, which
shows the initializer's zero metrics for a benchmark that did not run. -/
theorem benchmarkMain_reports (atoi : String → Int) (fs : String → Option (List UInt8))
    (junk : Nat → Nat → RespbCommand) (fuel : Nat) {opts : List Opt} {config : BenchmarkConfig}
    (hopts : parseOptions atoi initialConfig opts = .ok config) {out : List Report}
    (hmain : benchmarkMain atoi fs junk fuel opts = .exit 0 out) :
    ∃ mr mb, out = config.reports mr mb := by
  have hc := parseOptions_valid opts initialConfig_valid hopts
  unfold benchmarkMain at hmain
  rw [hopts] at hmain
  dsimp only at hmain
  split at hmain
  next hrun =>
    cases hmain
    obtain ⟨w, c₁, out₁, out₂, hload, hresp, hrespb, rfl⟩ := runBenchmark_ok hrun
    obtain ⟨hr, hb, hs⟩ := loadWorkloads_ok hc hload
    obtain ⟨mr, rfl, rfl⟩ := respStage_ok hresp
    obtain ⟨mb, rfl, rfl⟩ := respbStage_ok hrespb
    obtain ⟨hm₁, hm₂⟩ := hc.metrics_zero
    refine ⟨mr, mb, ?_⟩
    simp only [hr, hb, hs, hm₁, hm₂, BenchmarkConfig.reports, List.nil_append, List.append_assoc]
    split_ifs <;> rfl
  all_goals cases hmain

theorem benchmarkMain_reports_respbFileAlone :
    parseOptions (fun _ => 0) initialConfig [.b "respb.bin"] =
      .ok { initialConfig with respbWorkloadFile := some "respb.bin", workloadType := .file } ∧
    benchmarkMain (fun _ => 0) (fun _ => some [0]) (fun _ _ => default) 1 [.b "respb.bin"] =
      .exit 0 [] ∧
    ∃ mr mb, ([] : List Report) = BenchmarkConfig.reports
      { initialConfig with respbWorkloadFile := some "respb.bin", workloadType := .file } mr mb :=
  ⟨rfl, rfl, @benchmarkMain_reports (fun _ => 0) (fun _ => some [0]) (fun _ _ => default) 1
    [.b "respb.bin"] _ rfl [] rfl⟩

/-- `main` on a synthetic workload: for every option list it accepts that leaves SMALL_KEYS,
MEDIUM_KEYS or MIXED selected, the generated workload is the frames of a list of commands, and
with a turn per command and one more `main` returns 0, having reported the RESP metrics of
`iterations` replays of the whole workload when RESP is selected and nothing else: the RESPB
benchmark and the comparison never run. -/
theorem benchmarkMain_synthetic (atoi : String → Int) (fs : String → Option (List UInt8))
    (junk : Nat → Nat → RespbCommand) {opts : List Opt} {config : BenchmarkConfig}
    (hopts : parseOptions atoi initialConfig opts = .ok config) (hty : config.workloadType ≠ .file)
    (hlarge : config.workloadType ≠ .largeValues) :
    ∃ cmds : List (List (List UInt8)),
      workloadGenerateSynthetic (10 * 1024 * 1024) config.workloadType =
        some (cmds.map multibulk).flatten ∧
      ∀ fuel, cmds.length < fuel →
        benchmarkMain atoi fs junk fuel opts = .exit 0 (if config.benchResp then
          [.metrics ⟨config.iterations.toNat * cmds.length % Resp.wordMod,
            config.iterations.toNat * (cmds.map multibulk).flatten.length % Resp.wordMod⟩ "RESP"]
          else []) := by
  obtain ⟨data, hgen⟩ : ∃ data,
      workloadGenerateSynthetic (10 * 1024 * 1024) config.workloadType = some data := by
    cases h : config.workloadType with
    | file => exact absurd h hty
    | _ => exact ⟨_, rfl⟩
  obtain ⟨cmds, hsmall, rfl⟩ := Resp.workloadGenerateSynthetic_commands hlarge hgen
  refine ⟨cmds, hgen, fun fuel hfuel => ?_⟩
  rw [benchmarkMain, hopts]
  dsimp only
  rw [runBenchmark, loadWorkloads_synthetic hty hgen]
  dsimp only
  cases hsel : config.benchResp
  · rw [respStage_skip (by simp [hsel])]
    dsimp only
    rw [respbStage_same rfl]
    simp [hsel]
  · rw [respStage_ret rfl hsel (Resp.benchmarkRespParsing_smallCommands hsmall _ hfuel),
      if_neg one_ne_zero]
    dsimp only
    rw [respbStage_same rfl]
    simp

theorem benchmarkMain_synthetic_noOptions :
    parseOptions (fun _ => 0) initialConfig [] = .ok initialConfig ∧
    initialConfig.workloadType ≠ .file ∧ initialConfig.workloadType ≠ .largeValues ∧
    ∃ cmds : List (List (List UInt8)),
      workloadGenerateSynthetic (10 * 1024 * 1024) initialConfig.workloadType =
        some (cmds.map multibulk).flatten ∧
      ∀ fuel, cmds.length < fuel →
        benchmarkMain (fun _ => 0) (fun _ => none) (fun _ _ => default) fuel [] =
          .exit 0 (if initialConfig.benchResp then
            [.metrics ⟨initialConfig.iterations.toNat * cmds.length % Resp.wordMod,
              initialConfig.iterations.toNat * (cmds.map multibulk).flatten.length % Resp.wordMod⟩
              "RESP"]
            else []) :=
  ⟨rfl, by decide, by decide,
    benchmarkMain_synthetic (fun _ => 0) (fun _ => none) (fun _ _ => default) rfl (by decide)
      (by decide)⟩

/-- `main` on the LARGE_VALUES workload: for every option list it accepts that leaves LARGE_VALUES
selected and every bound of two turns or more, when RESP is selected the RESP benchmark counts the
workload's first command and returns 0 on its second, `run_benchmark` fails at the RESP stage
("RESP benchmark failed") and `main` returns 1; otherwise no benchmark runs, `run_benchmark`
returns 1 and `main` returns 0. It reports nothing either way. -/
theorem benchmarkMain_largeValues (atoi : String → Int) (fs : String → Option (List UInt8))
    (junk : Nat → Nat → RespbCommand) {opts : List Opt} {config : BenchmarkConfig}
    (hopts : parseOptions atoi initialConfig opts = .ok config)
    (hty : config.workloadType = .largeValues) {fuel : Nat} (hfuel : 2 ≤ fuel) :
    benchmarkMain atoi fs junk fuel opts = .exit (if config.benchResp then 1 else 0) [] ∧
    (config.benchResp = true → ∃ W,
      workloadGenerateSynthetic (10 * 1024 * 1024) .largeValues = some W ∧
      benchmarkRespParsing fuel W config.iterations.toNat = .ret 0 ⟨1, 1061⟩ ∧
      runBenchmark fs junk fuel config = .error (.failed .respBench [])) ∧
    (config.benchResp = false → runBenchmark fs junk fuel config = .ok (config, [])) := by
  have hc := parseOptions_valid opts initialConfig_valid hopts
  obtain ⟨_, hgen, R, rfl⟩ := Resp.largeValues_firstTwoFrames (10 * 1024 * 1024) (by decide)
  have hI : 0 < config.iterations.toNat := by have := hc.iterations_pos; omega
  have hresp := Resp.benchmarkRespParsing_largeValues R hfuel hI
  have hrun : runBenchmark fs junk fuel config =
      if config.benchResp then .error (.failed .respBench []) else .ok (config, []) := by
    rw [runBenchmark, loadWorkloads_synthetic (by rw [hty]; decide) (hty ▸ hgen)]
    dsimp only
    cases hsel : config.benchResp
    · rw [respStage_skip (by simp [hsel])]
      dsimp only
      rw [respbStage_same rfl]
      simp
    · rw [respStage_ret rfl hsel hresp, if_pos rfl]
      rfl
  refine ⟨?_, fun hsel => ⟨_, hgen, hresp, by rw [hrun, if_pos hsel]⟩,
    fun hsel => by rw [hrun, if_neg (by simp [hsel])]⟩
  rw [benchmarkMain, hopts]
  dsimp only
  rw [hrun]
  split_ifs <;> rfl

theorem benchmarkMain_largeValues_large :
    parseOptions (fun _ => 0) initialConfig [.w "large"] =
      .ok { initialConfig with workloadType := .largeValues } ∧
    benchmarkMain (fun _ => 0) (fun _ => none) (fun _ _ => default) 2 [.w "large"] = .exit 1 [] ∧
    ∃ W, workloadGenerateSynthetic (10 * 1024 * 1024) .largeValues = some W ∧
      benchmarkRespParsing 2 W 10 = .ret 0 ⟨1, 1061⟩ ∧
      runBenchmark (fun _ => none) (fun _ _ => default) 2
        { initialConfig with workloadType := .largeValues } = .error (.failed .respBench []) :=
  have h := @benchmarkMain_largeValues (fun _ => 0) (fun _ => none) (fun _ _ => default)
    [.w "large"] _ rfl rfl 2 le_rfl
  ⟨rfl, h.1, h.2.1 rfl⟩

/-- `main` on two workload files with both protocols selected: for every option list it accepts
that names a RESP file holding the frames of commands the RESP parser reads whole and a RESPB
file holding frames the RESPB parser reads alone, each of 1 byte to 1 GiB, with a turn per
command or frame and one more, `main` returns 0 having reported the RESP metrics, the RESPB
metrics and their comparison, each benchmark counting all of its workload in every iteration. -/
theorem benchmarkMain_files (atoi : String → Int) (fs : String → Option (List UInt8))
    (junk : Nat → Nat → RespbCommand) {opts : List Opt} {config : BenchmarkConfig}
    (hopts : parseOptions atoi initialConfig opts = .ok config)
    (hty : config.workloadType = .file) (hsel : config.benchResp = true ∧ config.benchRespb = true)
    {rname bname : String} (hr : config.respWorkloadFile = some rname)
    (hb : config.respbWorkloadFile = some bname)
    {cmds : List (List (List UInt8))} (hok : ∀ args ∈ cmds, WellSized args)
    (hlast : ∀ args ∈ cmds.getLast?, ¬ capturesLast args [])
    (hfr : fs rname = some (cmds.map multibulk).flatten)
    (hsr : 0 < (cmds.map multibulk).flatten.length ∧
      (cmds.map multibulk).flatten.length ≤ 1024 * 1024 * 1024)
    {frames : List (List UInt8)} (hframes : ∀ F ∈ frames, ParsesAlone F)
    (hfb : fs bname = some frames.flatten)
    (hsb : 0 < frames.flatten.length ∧ frames.flatten.length ≤ 1024 * 1024 * 1024)
    {fuel : Nat} (hfuel : cmds.length < fuel ∧ frames.length < fuel) :
    let n := config.iterations.toNat
    let mr : Metrics := ⟨n * cmds.length % Resp.wordMod,
      n * (cmds.map multibulk).flatten.length % Resp.wordMod⟩
    let mb : Metrics := ⟨n * frames.length % Resp.wordMod, n * frames.flatten.length % Resp.wordMod⟩
    benchmarkMain atoi fs junk fuel opts =
      .exit 0 [.metrics mr "RESP", .metrics mb "RESPB", .comparison mr mb] := by
  intro n mr mb
  have hrespRun : benchmarkRespParsing fuel (cmds.map multibulk).flatten n = .ret 1 mr := by
    rw [benchmarkRespParsing, Resp.iterationLoop_frames hok (.inl rfl) (fun _ => hlast) hfuel.1 n _ _
      (List.append_nil _).symm rfl (by decide) (by decide), Nat.zero_add, Nat.zero_add]
  have hrespbRun : benchmarkRespbParsing junk fuel ⟨frames.flatten, 0⟩ n = .ret 1 mb := by
    rw [benchmarkRespbParsing, respbIterationLoop_frames junk hframes (.inl rfl) hfuel.2 n _ _
      (List.append_nil _).symm (by decide) (by decide), Nat.zero_add, Nat.zero_add]
  rw [benchmarkMain, hopts]
  dsimp only
  rw [runBenchmark, loadWorkloads_files hty hr hb (workloadLoad_of_size hfr hsr)
    (workloadLoad_of_size hfb hsb)]
  dsimp only
  rw [respStage_ret rfl hsel.1 hrespRun, if_neg one_ne_zero]
  dsimp only
  rw [@respbStage_ret junk fuel _ _ rfl { config with respMetrics := mr } (by simp [hsel.2]) _ _
    hrespbRun, if_neg one_ne_zero]
  simp [hsel]

theorem benchmarkMain_files_getGet :
    let cmds : List (List (List UInt8)) := [[[71, 69, 84], [107]]]
    let frames : List (List UInt8) := [Respb.respbHeader .get 0 ++ Respb.str2 [107]]
    let fs : String → Option (List UInt8) := fun name =>
      if name = "resp.bin" then some (cmds.map multibulk).flatten else some frames.flatten
    let opts : List Opt := [.r "resp.bin", .b "respb.bin", .p "both"]
    let config : BenchmarkConfig := { initialConfig with
      workloadType := .file, respWorkloadFile := some "resp.bin",
      respbWorkloadFile := some "respb.bin", benchRespb := true }
    parseOptions (fun _ => 0) initialConfig opts = .ok config ∧
    let n := config.iterations.toNat
    let mr : Metrics := ⟨n * cmds.length % Resp.wordMod,
      n * (cmds.map multibulk).flatten.length % Resp.wordMod⟩
    let mb : Metrics := ⟨n * frames.length % Resp.wordMod, n * frames.flatten.length % Resp.wordMod⟩
    benchmarkMain (fun _ => 0) fs (fun _ _ => default) 2 opts =
      .exit 0 [.metrics mr "RESP", .metrics mb "RESPB", .comparison mr mb] :=
  have hsr : 0 < ([[[71, 69, 84], [107]]].map multibulk).flatten.length ∧
      ([[[71, 69, 84], [107]]].map multibulk).flatten.length ≤ 1024 * 1024 * 1024 := by
    simp [multibulk, Resp.lengthLine, Resp.bulk, Resp.decimal_of_lt (by decide : 2 < 10),
      Resp.decimal_of_lt (by decide : 3 < 10), Resp.decimal_of_lt (by decide : 1 < 10)]
  ⟨rfl, @benchmarkMain_files (fun _ => 0) _ (fun _ _ => default) [.r "resp.bin", .b "respb.bin",
    .p "both"] _ rfl rfl ⟨rfl, rfl⟩ _ _ rfl rfl _ (by decide) (by decide) rfl hsr _
    (by
      simp only [List.mem_singleton]
      rintro F rfl
      exact parsesAlone_of_readsBack (@Respb.readsBack_single (fun _ => [107]) (by decide)) rfl 0)
    rfl (by decide) _ (by decide)⟩

end Runs

end ProtocolBench.Bench
