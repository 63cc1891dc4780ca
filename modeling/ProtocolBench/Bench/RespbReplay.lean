import ProtocolBench.Resp.Replay
import ProtocolBench.Respb.ModuleCodec
import ProtocolBench.Respb.Stable

/-!
The RESPB side of `benchmark.c`. `benchmark_respb_parsing` replays a workload of RESPB frames
`iterations` times. Each turn of `while (workload_has_more(wl))` points a fresh parser at
`wl->data + wl->current_pos` with `workload_remaining(wl)` bytes and calls `respb_parse_command`;
on 1 it adds `parser.pos` to `current_pos` and to `bytes_processed`, on 0 it ends the iteration
(after a note on `stderr`, which is not modelled, unless the cursor reached the end), and on -1
the replay returns 0. The record `cmd` is declared in the loop without an initializer,
so the model takes its contents as a parameter, any record at each call. Only the two counters
the loop fills are modelled, modulo `2^64` as in the RESP driver.

A workload that is a sequence of frames, each of which the parser reads alone from its first
byte to its last and whose case does not test `buffer_len`, is counted frame by frame in every
iteration. In particular a workload written by `respb_serialize_command` for records that read
back is counted command by command, and a workload whose last frame is cut short is counted up
to the cut.
-/

namespace ProtocolBench.Bench
open ProtocolBench.Respb
open ProtocolBench.Resp (Metrics mod_add_mul_succ)

/-- `workload_t`: the bytes and the cursor `current_pos`. -/
structure Workload where
  data : List UInt8
  currentPos : Nat

/-- `workload_reset`. -/
def workloadReset (wl : Workload) : Workload := { wl with currentPos := 0 }

/-- `workload_has_more`. -/
def workloadHasMore (wl : Workload) : Bool := wl.currentPos < wl.data.length

/-- `workload_remaining`: `size - current_pos`, called only while `current_pos < size`. -/
def workloadRemaining (wl : Workload) : Nat := wl.data.length - wl.currentPos

/-- `respb_parser_init(&parser, wl->data + wl->current_pos, workload_remaining(wl))`. -/
def workloadParser (wl : Workload) : RespbParser :=
  respbParserInit (bufOf (wl.data.drop wl.currentPos)) (workloadRemaining wl)

/-- How one iteration's loop ends: a call returns 0 or the workload is exhausted, a call returns
-1, the parser trips a monitor, or the turns given to the model run out. -/
inductive RespbLoopEnd where
  | exit (wl : Workload) (m : Metrics)
  | error (m : Metrics)
  | stop
  | outOfFuel

/-- The loop `while (workload_has_more(wl))` of one iteration, with `fuel` turns; `junk p` is the
record `cmd` holds before the call at `current_pos = p`. -/
def respbCommandLoop (junk : Nat → RespbCommand) : Nat → Workload → Metrics → RespbLoopEnd
  | 0, _, _ => .outOfFuel
  | fuel + 1, wl, m =>
    if workloadHasMore wl then
      match respbParseCommand (workloadParser wl) (junk wl.currentPos) with
      | some (r, p, _) =>
        if r = 1 then
          respbCommandLoop junk fuel { wl with currentPos := wl.currentPos + p.pos } (m.count 0 p.pos)
        else if r = 0 then .exit wl m
        else .error m
      | none => .stop
    else .exit wl m

/-- What `benchmark_respb_parsing` returns, with the counters; or where the model stops. -/
inductive RespbReplayEnd where
  | ret (r : Int) (m : Metrics)
  | stop
  | outOfFuel
  deriving DecidableEq

/-- `for (iter = 0; iter < iterations; iter++)`: `workload_reset`, then the loop. -/
def respbIterationLoop (junk : Nat → Nat → RespbCommand) (fuel : Nat) :
    Nat → Workload → Metrics → RespbReplayEnd
  | 0, _, m => .ret 1 m
  | i + 1, wl, m =>
    match respbCommandLoop (junk i) fuel (workloadReset wl) m with
    | .exit wl m => respbIterationLoop junk fuel i wl m
    | .error m => .ret 0 m
    | .stop => .stop
    | .outOfFuel => .outOfFuel

/-- `benchmark_respb_parsing(wl, metrics, iterations, …)`, each loop given `fuel` turns. -/
def benchmarkRespbParsing (junk : Nat → Nat → RespbCommand) (fuel : Nat) (wl : Workload)
    (iterations : Nat) : RespbReplayEnd :=
  respbIterationLoop junk fuel iterations wl ⟨0, 0⟩

/-- A frame the parser reads alone: from offset 0 of a buffer holding exactly `F`,
`respb_parse_command` returns 1 with the cursor at its end, whatever record it is given; and
its opcode's case does not test `buffer_len`. -/
def ParsesAlone (F : List UInt8) : Prop :=
  (Op.ofCode (readU16Be (bufOf F 0) (bufOf F 1))).map Op.testsBufferEnd ≠ some true ∧
    ∀ C, ∃ D, respbParseCommand (respbParserInit (bufOf F) F.length) C =
      some (1, { respbParserInit (bufOf F) F.length with pos := F.length }, D)

section Frames

variable {F : List UInt8}

/-- A frame is at least its 4-byte header, so it is not empty. -/
theorem ParsesAlone.ne_nil (hF : ParsesAlone F) : F ≠ [] := by
  rintro rfl
  obtain ⟨D, h⟩ := hF.2 default
  obtain ⟨t, ht, -⟩ := respbParseCommand_eq_one h
  rw [parseCommand_apply, if_pos (by simp [ParseState.start, respbParserInit])] at ht
  cases ht

theorem ParsesAlone.testsBufferEnd (hF : ParsesAlone F) (C : RespbCommand) :
    ∀ op, Op.ofCode (ParseState.start (respbParserInit (bufOf F) F.length) C).frameOpcode = some op →
      op.testsBufferEnd = false := fun op hop => by
  have hmap := hF.1
  rw [show readU16Be (bufOf F 0) (bufOf F 1) =
    (ParseState.start (respbParserInit (bufOf F) F.length) C).frameOpcode from rfl, hop] at hmap
  simpa using hmap

/-- A frame the parser reads alone is read the same at the start of a longer buffer: the case
does not test `buffer_len`, and the parse reads nothing past the frame. -/
theorem ParsesAlone.append (hF : ParsesAlone F) (rest : List UInt8) (C : RespbCommand) :
    ∃ D, respbParseCommand (respbParserInit (bufOf (F ++ rest)) (F ++ rest).length) C =
      some (1, { respbParserInit (bufOf (F ++ rest)) (F ++ rest).length with pos := F.length }, D) := by
  obtain ⟨D, h⟩ := hF.2 C
  obtain ⟨t, ht, hp, -⟩ := respbParseCommand_eq_one h
  have hpos : t.pos = F.length := (congrArg RespbParser.pos hp).symm
  have hrun := (parseCommand_stable ht (hF.testsBufferEnd C) (bufOf (F ++ rest)) (F ++ rest).length).1
    (by simp [hpos]) fun i hi => bufOf_append_left (by omega)
  -- the state over the longer buffer is the one `respb_parse_command` starts from there
  have e : (ParseState.start (respbParserInit (bufOf F) F.length) C).withBuffer
      (bufOf (F ++ rest)) (F ++ rest).length =
      .start (respbParserInit (bufOf (F ++ rest)) (F ++ rest).length) C := rfl
  rw [e] at hrun
  exact ⟨t.cmd, by rw [respbParseCommand_of_ok hrun, ParseState.withBuffer_pos, hpos]; rfl⟩

/-- A frame the parser reads alone, cut short, is reported incomplete whatever record the parser
is given. -/
theorem ParsesAlone.truncated (hF : ParsesAlone F) {k : Nat} (hk : k < F.length) (C : RespbCommand) :
    ∃ q c, respbParseCommand (respbParserInit (bufOf (F.take k)) (F.take k).length) C =
      some (0, q, c) := by
  obtain ⟨D, h⟩ := hF.2 C
  obtain ⟨t, ht, hp, -⟩ := respbParseCommand_eq_one h
  have hpos : t.pos = F.length := (congrArg RespbParser.pos hp).symm
  obtain ⟨u, hu⟩ := (parseCommand_stable ht (hF.testsBufferEnd C) (bufOf (F.take k))
    (F.take k).length).2 (Nat.zero_le _) (by simp [hpos]; omega)
    fun i hi => bufOf_take (by simp at hi; omega)
  exact ⟨_, _, respbParseCommand_of_incomplete hu⟩

/-- The cases that read back do not test `buffer_len`: the four HEXPIRE cases are generic
frames of another layout. -/
theorem testsBufferEnd_of_rereadable {op : Op} (h : op.Rereadable) : op.testsBufferEnd = false := by
  cases op <;> first | rfl | exact absurd h (by decide)

/-- A frame of an opcode whose case does not test `buffer_len` is one the parser reads alone when
the parser reads it from its first byte to its last. -/
theorem parsesAlone_of_header {op : Op} {mux : UInt16} {P : List UInt8}
    (hop : op.testsBufferEnd = false)
    (hparse : ∀ C, ∃ D, respbParseCommand (respbParserInit (bufOf (respbHeader op mux ++ P))
      (respbHeader op mux ++ P).length) C = some (1, { respbParserInit (bufOf (respbHeader op mux ++ P))
        (respbHeader op mux ++ P).length with pos := (respbHeader op mux ++ P).length }, D)) :
    ParsesAlone (respbHeader op mux ++ P) := by
  refine ⟨?_, hparse⟩
  have hB : BytesAt (ParseState.start (respbParserInit (bufOf (respbHeader op mux ++ P))
      (respbHeader op mux ++ P).length) default).buffer 0 (respbHeader op mux ++ P) :=
    bytesAt_bufOf _
  rw [show readU16Be (bufOf (respbHeader op mux ++ P) 0) (bufOf (respbHeader op mux ++ P) 1) =
    _ from (frame_header hB).1, Op.ofCode_code]
  simp [hop]

/-- A frame whose case reads back, of an opcode whose case does not test `buffer_len`, is one the
parser reads alone. -/
theorem parsesAlone_of_readsBack {op : Op} {P : List UInt8} {n : Nat} {a : Nat → List UInt8}
    (h : ReadsBack op P n a) (hop : op.testsBufferEnd = false) (mux : UInt16) :
    ParsesAlone (respbHeader op mux ++ P) :=
  parsesAlone_of_header hop fun C => (respbParseCommand_readsBack h mux C).imp fun _ h => h.1

/-- The frame `respb_serialize_command` writes for a record that reads back is one the parser
reads alone. -/
theorem parsesAlone_of_rereadable (mem : Nat → UInt8) {cmd : RespbCommand}
    (h : cmd.Rereadable) : ParsesAlone (respbFrame mem cmd) := by
  obtain ⟨op, hop, hre, hargc, har, hpairs, hfit⟩ := h
  rw [respbFrame_eq_header mem cmd hop hre]
  exact parsesAlone_of_readsBack (readsBack_of_rereadable mem cmd hre hargc har hpairs hfit)
    (testsBufferEnd_of_rereadable hre) _

/-- The frame `respb_serialize_command` writes for a passthrough record is one the parser reads
alone. -/
theorem parsesAlone_of_passthrough (mem : Nat → UInt8) {cmd : RespbCommand}
    (h : cmd.opcode = Op.respPassthrough.code) : ParsesAlone (respbFrame mem cmd) := by
  have hcode : Op.ofCode cmd.opcode = some .respPassthrough := by rw [h, Op.ofCode_code]
  simp only [respbFrame, hcode, show serializeCase (some .respPassthrough) = .passthrough from rfl,
    RespbCommand.frameHeader, RespbCommand.payload, List.append_assoc]
  exact parsesAlone_of_header rfl fun C => (respbParseCommand_passthrough
    (SerializeM.argBytes_length ⟨cmd.respData, cmd.respLength.toNat⟩) _ C).imp fun _ h => h.1

/-- The frame `respb_serialize_command` writes for a MODULE record that reads back is one the
parser reads alone. -/
theorem parsesAlone_of_moduleRereadable (mem : Nat → UInt8) {cmd : RespbCommand}
    (h : cmd.ModuleRereadable) : ParsesAlone (respbFrame mem cmd) := by
  obtain ⟨hop, -, hmid, hcid, n, hshape, hfit⟩ := h
  rw [respbFrame_module mem cmd hop]
  exact parsesAlone_of_header rfl fun C => (respbParseCommand_moduleReadsBack
    (moduleReadsBack_of_fits mem cmd hmid hcid hshape hfit) _ C).imp fun _ h => h.1

end Frames

/-- A workload tail at which an iteration's loop ends: nothing, or bytes the parser reports
incomplete whatever record it is given. -/
def EndsLoop (T : List UInt8) : Prop :=
  T = [] ∨ ∀ C, ∃ q c, respbParseCommand (respbParserInit (bufOf T) T.length) C = some (0, q, c)

/-- One iteration over a workload whose unread part is the frames `fs` and a tail `T` that ends
the loop: the loop counts each frame and its bytes and ends at the tail, given a turn per frame
and one more. -/
theorem respbCommandLoop_frames (junk : Nat → RespbCommand) {T : List UInt8} (hT : EndsLoop T) :
    ∀ (fs : List (List UInt8)) (wl : Workload) (m : Metrics) (fuel : Nat),
      (∀ F ∈ fs, ParsesAlone F) → wl.data.drop wl.currentPos = fs.flatten ++ T → fs.length < fuel →
      ∃ wl', respbCommandLoop junk fuel wl m = .exit wl' (m.countFrames fs) ∧ wl'.data = wl.data
  | [], wl, m, fuel, _, hdrop, hfuel => by
    obtain ⟨f, rfl⟩ : ∃ f, fuel = f + 1 := ⟨fuel - 1, by simp at hfuel; omega⟩
    rw [List.flatten_nil, List.nil_append] at hdrop
    rw [respbCommandLoop]
    split_ifs with hmore
    · obtain ⟨q, c, hq⟩ : ∃ q c, respbParseCommand (workloadParser wl) (junk wl.currentPos) =
          some (0, q, c) := by
        rcases hT with rfl | hstop
        · simp [workloadHasMore, List.drop_eq_nil_iff] at hmore hdrop
          omega
        · rw [workloadParser, workloadRemaining, ← List.length_drop, hdrop]
          exact hstop _
      rw [hq]
      exact ⟨wl, rfl, rfl⟩
    · exact ⟨wl, rfl, rfl⟩
  | F :: fs, wl, m, fuel, hok, hdrop, hfuel => by
    obtain ⟨f, rfl⟩ : ∃ f, fuel = f + 1 := ⟨fuel - 1, by simp at hfuel; omega⟩
    have hF := hok F (List.mem_cons_self _ _)
    rw [List.flatten_cons, List.append_assoc] at hdrop
    have hlen : workloadRemaining wl = (F ++ (fs.flatten ++ T)).length := by
      rw [← hdrop, List.length_drop, workloadRemaining]
    have hmore : wl.currentPos < wl.data.length := by
      have := congrArg List.length hdrop
      simp only [List.length_drop, List.length_append] at this
      have := List.length_pos.2 hF.ne_nil
      omega
    obtain ⟨D, hparse⟩ := hF.append (fs.flatten ++ T) (junk wl.currentPos)
    have hdrop' : wl.data.drop (wl.currentPos + F.length) = fs.flatten ++ T := by
      rw [← List.drop_drop, hdrop, List.drop_left]
    obtain ⟨wl', hloop, hdata⟩ := respbCommandLoop_frames junk hT fs
      { wl with currentPos := wl.currentPos + F.length } (m.count 0 F.length) f
      (fun F' hF' => hok F' (List.mem_cons_of_mem _ hF')) hdrop' (by simp at hfuel; omega)
    refine ⟨wl', ?_, hdata⟩
    rw [respbCommandLoop, if_pos (by simpa [workloadHasMore] using hmore), workloadParser, hdrop,
      hlen, hparse]
    exact hloop

/-- Every iteration over a workload that is the frames `fs` and a tail that ends the loop counts
each frame and its bytes. -/
theorem respbIterationLoop_frames (junk : Nat → Nat → RespbCommand) {fs : List (List UInt8)}
    (hok : ∀ F ∈ fs, ParsesAlone F) {T : List UInt8} (hT : EndsLoop T) {fuel : Nat}
    (hfuel : fs.length < fuel) :
    ∀ (i : Nat) (wl : Workload) (m : Metrics), wl.data = fs.flatten ++ T →
      m.commandsProcessed < Resp.wordMod → m.bytesProcessed < Resp.wordMod →
      respbIterationLoop junk fuel i wl m = .ret 1
        ⟨(m.commandsProcessed + i * fs.length) % Resp.wordMod,
          (m.bytesProcessed + i * fs.flatten.length) % Resp.wordMod⟩
  | 0, _, ⟨c, b⟩, _, hc, hb => by simp [respbIterationLoop, Nat.mod_eq_of_lt hc, Nat.mod_eq_of_lt hb]
  | i + 1, wl, m, hdata, hc, hb => by
    obtain ⟨wl', hloop, hdata'⟩ := respbCommandLoop_frames (junk i) hT fs (workloadReset wl) m fuel
      hok (by simp [workloadReset, hdata]) hfuel
    have hcount := Metrics.countFrames_eq fs m hc hb
    rw [respbIterationLoop, hloop]
    dsimp only
    rw [respbIterationLoop_frames junk hok hT hfuel i wl' _ (hdata'.trans hdata)
      (by rw [hcount]; exact Nat.mod_lt _ (by decide)) (by rw [hcount]; exact Nat.mod_lt _ (by decide)),
      hcount, mod_add_mul_succ, mod_add_mul_succ]

/-- `benchmark_respb_parsing` on a workload that is a sequence of frames, each of which the
parser reads alone and whose case does not test `buffer_len`: with a turn per frame and one
more, whatever the record `cmd` holds before each call, it returns 1 having counted every frame
and all of its bytes in each iteration, modulo `2^64`. -/
theorem benchmarkRespbParsing_countsEveryFrame (frames : List (List UInt8))
    (hok : ∀ F ∈ frames, ParsesAlone F) (junk : Nat → Nat → RespbCommand) (fuel iterations : Nat)
    (hfuel : frames.length < fuel) :
    benchmarkRespbParsing junk fuel ⟨frames.flatten, 0⟩ iterations =
      .ret 1 ⟨iterations * frames.length % Resp.wordMod, iterations * frames.flatten.length % Resp.wordMod⟩ := by
  rw [benchmarkRespbParsing, respbIterationLoop_frames junk hok (.inl rfl) hfuel iterations _ _
    (List.append_nil _).symm (by decide) (by decide), Nat.zero_add, Nat.zero_add]

theorem benchmarkRespbParsing_countsEveryFrame_pingGet :
    let frames := [respbHeader .ping 0, respbHeader .get 7 ++ str2 [97]]
    (∀ F ∈ frames, ParsesAlone F) ∧ frames.length < 3 ∧
    benchmarkRespbParsing (fun _ _ => default) 3 ⟨frames.flatten, 0⟩ 5 =
      .ret 1 ⟨5 * frames.length % Resp.wordMod, 5 * frames.flatten.length % Resp.wordMod⟩ :=
  have hok : ∀ F ∈ [respbHeader .ping 0, respbHeader .get 7 ++ str2 [97]], ParsesAlone F := by
    simp only [List.mem_cons, List.mem_singleton, List.not_mem_nil, or_false]
    rintro F (rfl | rfl)
    · exact parsesAlone_of_readsBack (@readsBack_empty fun _ => []) rfl 0
    · exact parsesAlone_of_readsBack (@readsBack_single (fun _ => [97]) (by decide)) rfl 7
  ⟨hok, by decide, benchmarkRespbParsing_countsEveryFrame _ hok _ 3 5 (by decide)⟩

/-- `benchmark_respb_parsing` on a workload whose last frame is cut short: for every sequence of
frames the parser reads alone followed by any proper prefix of one more such frame, every
iteration bound above the number of whole frames and whatever `cmd` holds before each call, it
returns 1 having counted every whole frame and its bytes in each iteration, modulo `2^64`, and
never the cut frame, which the parser reports incomplete: a truncated workload still replays with
success. -/
theorem benchmarkRespbParsing_truncatedLast (frames : List (List UInt8))
    (hok : ∀ F ∈ frames, ParsesAlone F) {F : List UInt8} (hF : ParsesAlone F) {k : Nat}
    (hk : k < F.length) (junk : Nat → Nat → RespbCommand) (fuel iterations : Nat)
    (hfuel : frames.length < fuel) :
    benchmarkRespbParsing junk fuel ⟨frames.flatten ++ F.take k, 0⟩ iterations =
      .ret 1 ⟨iterations * frames.length % Resp.wordMod,
        iterations * frames.flatten.length % Resp.wordMod⟩ := by
  rw [benchmarkRespbParsing, respbIterationLoop_frames junk hok (.inr (hF.truncated hk)) hfuel
    iterations _ _ rfl (by decide) (by decide), Nat.zero_add, Nat.zero_add]

theorem benchmarkRespbParsing_truncatedLast_pingGet :
    let frames := [respbHeader .ping 0]
    let F := respbHeader .get 7 ++ str2 [97]
    (∀ F ∈ frames, ParsesAlone F) ∧ ParsesAlone F ∧ 5 < F.length ∧ frames.length < 2 ∧
    benchmarkRespbParsing (fun _ _ => default) 2 ⟨frames.flatten ++ F.take 5, 0⟩ 3 =
      .ret 1 ⟨3 * frames.length % Resp.wordMod, 3 * frames.flatten.length % Resp.wordMod⟩ :=
  have hok : ∀ F ∈ [respbHeader .ping 0], ParsesAlone F := by
    simp only [List.mem_singleton]
    rintro F rfl
    exact parsesAlone_of_readsBack (@readsBack_empty fun _ => []) rfl 0
  have hF : ParsesAlone (respbHeader .get 7 ++ str2 [97]) :=
    parsesAlone_of_readsBack (@readsBack_single (fun _ => [97]) (by decide)) rfl 7
  ⟨hok, hF, by decide, by decide,
    benchmarkRespbParsing_truncatedLast _ hok hF (by decide) _ 2 3 (by decide)⟩

/-- `benchmark_respb_parsing` on a workload written by `respb_serialize_command`, the frames of
records that read back, pass RESP text through or are MODULE records that read back, laid end to
end: with a turn per record and one more, whatever `cmd` holds before each call, it returns 1
having counted every record and all the bytes written for it in each iteration, modulo `2^64`. -/
theorem benchmarkRespbParsing_serializedWorkload (mem : Nat → UInt8) (cmds : List RespbCommand)
    (hcmds : ∀ cmd ∈ cmds,
      cmd.Rereadable ∨ cmd.opcode = Op.respPassthrough.code ∨ cmd.ModuleRereadable)
    (junk : Nat → Nat → RespbCommand) (fuel iterations : Nat) (hfuel : cmds.length < fuel) :
    let frames := cmds.map (respbFrame mem)
    benchmarkRespbParsing junk fuel ⟨frames.flatten, 0⟩ iterations =
      .ret 1 ⟨iterations * cmds.length % Resp.wordMod,
        iterations * frames.flatten.length % Resp.wordMod⟩ := by
  intro frames
  have hok : ∀ F ∈ frames, ParsesAlone F := by
    simp only [frames, List.mem_map]
    rintro _ ⟨cmd, hcmd, rfl⟩
    rcases hcmds cmd hcmd with h | h | h
    · exact parsesAlone_of_rereadable mem h
    · exact parsesAlone_of_passthrough mem h
    · exact parsesAlone_of_moduleRereadable mem h
  have hlen : frames.length = cmds.length := List.length_map _ _
  rw [benchmarkRespbParsing, respbIterationLoop_frames junk hok (.inl rfl) (hlen ▸ hfuel) iterations
    _ _ (List.append_nil _).symm (by decide) (by decide), Nat.zero_add, Nat.zero_add, hlen]

theorem benchmarkRespbParsing_serializedWorkload_lpushTextBfAdd :
    let mem : Nat → UInt8 := fun i => 97 + i.toUInt8
    let cmds : List RespbCommand :=
      [{ (default : RespbCommand) with opcode := Op.lpush.code, argc := 3, args := fun k => ⟨k, 1⟩ },
        { (default : RespbCommand) with opcode := Op.respPassthrough.code, respLength := 4 },
        { (default : RespbCommand) with
          opcode := Op.module.code, moduleSubcommand := 0x00010000, moduleId := 1, argc := 2,
          args := fun k => ⟨k, 1⟩ }]
    (∀ cmd ∈ cmds,
      cmd.Rereadable ∨ cmd.opcode = Op.respPassthrough.code ∨ cmd.ModuleRereadable) ∧
    cmds.length < 4 ∧
    let frames := cmds.map (respbFrame mem)
    benchmarkRespbParsing (fun _ _ => default) 4 ⟨frames.flatten, 0⟩ 5 =
      .ret 1 ⟨5 * cmds.length % Resp.wordMod, 5 * frames.flatten.length % Resp.wordMod⟩ :=
  have hcmds : ∀ cmd ∈ [{ (default : RespbCommand) with
        opcode := Op.lpush.code, argc := 3, args := fun k => ⟨k, 1⟩ },
      { (default : RespbCommand) with opcode := Op.respPassthrough.code, respLength := 4 },
      { (default : RespbCommand) with
        opcode := Op.module.code, moduleSubcommand := 0x00010000, moduleId := 1, argc := 2,
        args := fun k => ⟨k, 1⟩ }],
      cmd.Rereadable ∨ cmd.opcode = Op.respPassthrough.code ∨ cmd.ModuleRereadable := by
    simp only [List.mem_cons, List.mem_singleton, List.not_mem_nil, or_false]
    rintro cmd (rfl | rfl | rfl)
    · exact .inl (by decide)
    · exact .inr (.inl rfl)
    · exact .inr (.inr ⟨rfl, by decide, by decide, by decide, 2, .bfAdd (by decide), by decide⟩)
  ⟨hcmds, by decide, benchmarkRespbParsing_serializedWorkload _ _ hcmds _ 4 5 (by decide)⟩

end ProtocolBench.Bench
