import ProtocolBench.Resp.Deliver

/-!
The RESP side of `benchmark.c`: `benchmark_resp_parsing` replays one query buffer `iterations`
times, calling `valkey_parse_command` while `qb_pos < querybuf_peak` and adding `qb_pos -
start_pos` to `bytes_processed` for each parsed command. Only the two counters it fills are
modelled; the timer, the latency samples and the printing are left out. The counters are
`uint64_t` and `bytes_consumed` is a `size_t`, so each wraps modulo `2^64`.

The replay assumes that the parser leaves the buffer in place. It does not when the workload ends
with an argument of `PROTO_MBULK_BIG_ARG` bytes or more: the parser captures the buffer, the
cursor goes back to 0, and every later call finds nothing to read.
-/

namespace ProtocolBench.Resp

/-- `2^64`: `uint64_t` and `size_t` arithmetic is modulo it. -/
def wordMod : Nat := 2 ^ 64

/-- `commands_processed` and `bytes_processed` of `benchmark_metrics_t`. -/
structure Metrics where
  commandsProcessed : Nat
  bytesProcessed : Nat
  deriving DecidableEq, Repr

/-- The reset after a parsed command: `argc = 0; argv_len_sum = 0`, the arguments released. -/
def resetCommand (c : ValkeyClient) : ValkeyClient := { c with argc := 0, argvLenSum := 0 }

/-- The reset at the start of each iteration. The query buffer is not reset. -/
def resetIteration (c : ValkeyClient) : ValkeyClient :=
  { c with
    qbPos := 0
    multibulklen := 0
    bulklen := -1
    reqtype := 0
    readFlags := 0
    argv := fun _ => []
    argc := 0
    argvLen := 0
    argvLenSum := 0 }

/-- The counters after one parsed command that moved the cursor from `startPos` to `qbPos`. -/
def Metrics.count (m : Metrics) (startPos qbPos : Nat) : Metrics where
  commandsProcessed := (m.commandsProcessed + 1) % wordMod
  bytesProcessed := (m.bytesProcessed + (qbPos + wordMod - startPos) % wordMod) % wordMod

/-- How the loop `while (client.qb_pos < client.querybuf_peak)` ends: its condition fails or a
call returns 0 (`break`), a call returns -1 (the driver returns 0), the parser stops (a failed
`assert`, undefined behaviour), or the turns given to the model run out. -/
inductive LoopEnd where
  | exit (c : ValkeyClient) (m : Metrics)
  | error (m : Metrics)
  | stop (e : RespStop)
  | outOfFuel

/-- The inner loop of one iteration, with `fuel` turns. -/
def commandLoop : Nat → ValkeyClient → Metrics → LoopEnd
  | 0, _, _ => .outOfFuel
  | fuel + 1, c, m =>
    if c.qbPos < c.querybufPeak then
      match valkeyParseCommand c with
      | .ok r c' =>
        if r = 1 then commandLoop fuel (resetCommand c') (m.count c.qbPos c'.qbPos)
        else if r = 0 then .exit c' m
        else .error m
      | .error e _ => .stop e
    else .exit c m

/-- What `benchmark_resp_parsing` returns, with the counters; or where the model stops. -/
inductive ReplayEnd where
  | ret (r : Int) (m : Metrics)
  | stop (e : RespStop)
  | outOfFuel
  deriving DecidableEq, Repr

/-- `for (iter = 0; iter < iterations; iter++)`: reset, then the inner loop. -/
def iterationLoop (fuel : Nat) : Nat → ValkeyClient → Metrics → ReplayEnd
  | 0, _, m => .ret 1 m
  | i + 1, c, m =>
    match commandLoop fuel (resetIteration c) m with
    | .exit c m => iterationLoop fuel i c m
    | .error m => .ret 0 m
    | .stop e => .stop e
    | .outOfFuel => .outOfFuel

/-- `benchmark_resp_parsing(wl, metrics, iterations, …)` on the workload `wl`, each inner loop
given `fuel` turns. -/
def benchmarkRespParsing (fuel : Nat) (wl : List UInt8) (iterations : Nat) : ReplayEnd :=
  iterationLoop fuel iterations (valkeyClientInit wl) ⟨0, 0⟩

section Empty

variable {c : ValkeyClient} {m : Metrics}

/-- A call with nothing to read returns 0 and changes nothing. -/
theorem valkeyParseCommand_of_empty (hreq : c.reqtype = 0) (hq : c.querybuf = []) :
    valkeyParseCommand c = .ok 0 c := by
  rw [valkeyParseCommand, if_pos ⟨hreq, by simp [hq]⟩]

/-- With an empty buffer, the inner loop ends at once and counts nothing. -/
theorem commandLoop_of_empty {fuel : Nat} (hf : 0 < fuel) (hreq : c.reqtype = 0)
    (hq : c.querybuf = []) : ∃ c', commandLoop fuel c m = .exit c' m ∧ c'.querybuf = [] := by
  obtain ⟨fuel, rfl⟩ : ∃ f, fuel = f + 1 := ⟨fuel - 1, by omega⟩
  rw [commandLoop]
  split_ifs
  · rw [valkeyParseCommand_of_empty hreq hq]
    exact ⟨c, by simp, hq⟩
  · exact ⟨c, rfl, hq⟩

/-- Once the buffer is empty, every further iteration counts nothing. -/
theorem iterationLoop_of_empty {fuel : Nat} (hf : 0 < fuel) (i : Nat) (hq : c.querybuf = []) :
    iterationLoop fuel i c m = .ret 1 m := by
  induction i generalizing c with
  | zero => rfl
  | succ i ih =>
    obtain ⟨c', h, hq'⟩ := @commandLoop_of_empty (resetIteration c) m fuel hf rfl hq
    rw [iterationLoop, h]
    exact ih hq'

end Empty

/-- A workload that is one frame whose only argument is big: the first iteration counts the
command but none of its bytes, since the capture moved the cursor back to 0, and every later
iteration finds the buffer empty. -/
theorem replay_bigArgCountedOnce (a : List UInt8) (hbig : protoMbulkBigArg ≤ a.length)
    (hmax : a.length ≤ 512 * 1024 * 1024) (iterations : Nat) (hI : 0 < iterations) (fuel : Nat)
    (hfuel : 2 ≤ fuel) :
    benchmarkRespParsing fuel (multibulk [a]) iterations = .ret 1 ⟨1, 0⟩ := by
  obtain ⟨i, rfl⟩ : ∃ i, iterations = i + 1 := ⟨iterations - 1, by omega⟩
  obtain ⟨fuel, rfl⟩ : ∃ f, fuel = f + 1 := ⟨fuel - 1, by omega⟩
  obtain ⟨c', hp, -, -, -, -, -, -, hreq, -, hcons, -, hcap⟩ :=
    @valkeyParseCommand_frame (valkeyClientInit (multibulk [a])) [a] [] rfl rfl rfl
      (ValkeyClient.isReplicated_init _) (ValkeyClient.authRequired_init _) (by simp) (by simp)
      (by simpa using hmax) (by rw [ValkeyClient.rest, List.append_nil]; rfl)
  have hq : c'.querybuf = [] := hcap ((capturesLast_cons a [] []).2 (by simp [hbig]))
  have hpos : c'.qbPos = 0 := by simpa [hq] using hcons.qbPos_le
  have hpeak : (valkeyClientInit (multibulk [a])).qbPos <
      (valkeyClientInit (multibulk [a])).querybufPeak := by
    simp [valkeyClientInit, multibulk, lengthLine]
  obtain ⟨c'', hloop, hq''⟩ := @commandLoop_of_empty (resetCommand c')
    ((⟨0, 0⟩ : Metrics).count (valkeyClientInit (multibulk [a])).qbPos c'.qbPos) fuel (by omega) hreq hq
  rw [benchmarkRespParsing, iterationLoop]
  rw [show resetIteration (valkeyClientInit (multibulk [a])) = valkeyClientInit (multibulk [a]) from rfl,
    commandLoop, if_pos hpeak, hp]
  dsimp only
  rw [if_pos rfl, hloop]
  dsimp only
  rw [iterationLoop_of_empty (by omega) i hq'', hpos]
  simp [Metrics.count, valkeyClientInit, wordMod]

theorem replay_bigArgCountedOnce_32KiB :
    benchmarkRespParsing 2 (multibulk [List.replicate 32768 97]) 2 = .ret 1 ⟨1, 0⟩ :=
  replay_bigArgCountedOnce (List.replicate 32768 97) (by rw [List.length_replicate]; decide)
    (by rw [List.length_replicate]; decide) 2 (by decide) 2 le_rfl

end ProtocolBench.Resp
